import MediaFilter.Bindings

/-!
What the operations on bound widgets leave alone.  Every widget stays under its definition and goes
on to report its changes, and where only choices are replaced the expression stays the same.
-/

namespace MediaFilter

theorem FilterName.kind_definition_eq_userList {name : FilterName} :
    name.definition.kind = .userList ↔ name = .userList := by
  cases name <;> decide

namespace Widget

structure Remains (before after : Widget) : Prop where
  definition : after.definition = before.definition
  subscribed : after.subscribed = before.subscribed

/-- A widget that differs from another at most in what it offers. -/
structure Agrees (before after : Widget) : Prop extends Remains before after where
  value : after.value = before.value

theorem Remains.name {before after : Widget} (remains : before.Remains after) :
    after.name = before.name := congrArg Definition.name remains.definition

theorem Agrees.refl (widget : Widget) : widget.Agrees widget := ⟨⟨rfl, rfl⟩, rfl⟩

theorem agrees_setWhitelist (entries : List WhitelistEntry) (widget : Widget) :
    widget.Agrees (widget.setWhitelist entries).result := ⟨⟨rfl, rfl⟩, rfl⟩

theorem agrees_setLoading (loading : Bool) (widget : Widget) :
    widget.Agrees (widget.setLoading loading).result := by
  unfold setLoading
  split
  · exact .refl widget
  · exact ⟨⟨rfl, rfl⟩, rfl⟩

theorem remains_setDomain (domain : RangeDomain) (widget : Widget) :
    widget.Remains (widget.setDomain domain).result := by
  unfold setDomain
  split <;> exact ⟨rfl, rfl⟩

theorem remains_reset (widget : Widget) : widget.Remains widget.reset.result.1 := by
  unfold reset
  split <;> exact ⟨rfl, rfl⟩

theorem apply_cases (edit : Edit) {widget : Widget} (subscribed : widget.subscribed = true) :
    ((widget.apply edit).changes = [] ∧ (widget.apply edit).widget = widget) ∨
      ((widget.apply edit).changes = [⟨widget.name, edit.commit⟩] ∧
        ∃ value, (widget.apply edit).widget = { widget with value := value }) := by
  unfold apply
  split
  · exact .inl ⟨rfl, rfl⟩
  · exact .inl ⟨rfl, rfl⟩
  · exact .inr ⟨by rw [subscribed]; rfl, _, rfl⟩

theorem definition_bind (definition : Definition) (entity : EntityType)
    (restored : Option FilterValue) :
    (bind definition entity restored).result.definition = definition := by
  unfold bind
  split <;> rfl

end Widget

namespace Bindings

@[simp] theorem entity_withWidgets (bindings : Bindings) (widgets : List Widget) :
    (bindings.withWidgets widgets).entity = bindings.entity := rfl

@[simp] theorem entity_unbind (name : FilterName) (bindings : Bindings) :
    (bindings.unbind name).result.1.entity = bindings.entity := by
  unfold unbind
  split <;> rfl

theorem mem_names {bindings : Bindings} {name : FilterName} :
    name ∈ bindings.names ↔ ∃ widget ∈ bindings.widgets, widget.name = name :=
  List.mem_map

theorem get?_eq_none_iff {bindings : Bindings} {name : FilterName} :
    bindings.get? name = none ↔ name ∉ bindings.names := by
  rw [get?, List.find?_eq_none, mem_names]
  simp

theorem names_of_map {before after : Bindings} {change : Widget → Widget}
    (widgets : after.widgets = before.widgets.map change)
    (named : ∀ widget ∈ before.widgets, (change widget).name = widget.name) :
    after.names = before.names := by
  rw [names, names, widgets, List.map_map]
  exact List.map_congr_left named

theorem definition_bindOne (entity : EntityType) (stored : Expression) (definition : Definition) :
    (bindOne entity stored definition).result.definition = definition :=
  Widget.definition_bind definition entity _

theorem name_bindOne (entity : EntityType) (stored : Expression) (name : FilterName) :
    (bindOne entity stored name.definition).result.name = name := by
  rw [Widget.name, definition_bindOne, FilterName.definition_name]

theorem names_bind (entity : EntityType) (stored : Expression) (grouping : TagGrouping) :
    (bind entity stored grouping).result.names =
      entity.filterSet.filter fun name => name ≠ .userList := by
  simp only [bind, names, EntityType.definitions, Traced.result_map, Traced.result_each,
    List.filter_map, List.map_map, Function.comp_def, ne_eq,
    FilterName.kind_definition_eq_userList, name_bindOne, List.map_id']

@[simp] theorem names_subscribeAll (bindings : Bindings) :
    bindings.subscribeAll.names = bindings.names :=
  names_of_map rfl fun _ _ => rfl

theorem widgets_unbind (bindings : Bindings) (name : FilterName) :
    (bindings.unbind name).result.1.widgets =
      bindings.widgets.filter fun widget => widget.name ≠ name := by
  unfold unbind
  split
  · rfl
  · rename_i absent
    refine (List.filter_eq_self.2 fun widget isBound => ?_).symm
    simpa using List.find?_eq_none.1 absent widget isBound

theorem names_unbind (bindings : Bindings) (name : FilterName) :
    (bindings.unbind name).result.1.names = bindings.names.filter fun other => other ≠ name := by
  rw [names, widgets_unbind, names, List.filter_map]
  rfl

theorem mem_unbind {bindings : Bindings} {name : FilterName} {widget : Widget} :
    widget ∈ (bindings.unbind name).result.1.widgets ↔
      widget ∈ bindings.widgets ∧ widget.name ≠ name := by
  rw [widgets_unbind, List.mem_filter, decide_eq_true_iff]

theorem not_mem_names_unbind (bindings : Bindings) (name : FilterName) :
    name ∉ (bindings.unbind name).result.1.names := by
  rw [names_unbind]
  simp

theorem exists_place (bindings : Bindings) (added : Widget) : ∃ front back,
    bindings.widgets = front ++ back ∧
      (bindings.place added).widgets = front ++ added :: back :=
  ⟨_, _, List.takeWhile_append_dropWhile.symm, rfl⟩

theorem mem_place {bindings : Bindings} {added widget : Widget} :
    widget ∈ (bindings.place added).widgets ↔ widget = added ∨ widget ∈ bindings.widgets := by
  obtain ⟨front, back, parted, placed⟩ := bindings.exists_place added
  rw [placed, parted, List.mem_append, List.mem_cons, List.mem_append]
  exact or_left_comm

theorem names_place (bindings : Bindings) (added : Widget) :
    (bindings.place added).names.Perm (added.name :: bindings.names) := by
  obtain ⟨front, back, parted, placed⟩ := bindings.exists_place added
  rw [names, names, placed, parted, ← List.map_cons]
  exact List.perm_middle.map Widget.name

def newPicker (bindings : Bindings) (userLists : List UserList) (stored : Expression) : Widget :=
  (Widget.bindUserList FilterName.userList.definition bindings.entity
    (userLists.map UserList.toWhitelistEntry) (bindings.pickedLists stored)).result.subscribe

/-- What comes of binding the lists of a user: nothing at all, or a picker in place of the one
before. -/
theorem bindUserLists_eq (bindings : Bindings) (userLists : List UserList) (stored : Expression)
    (subscribed : Bool) :
    ((.userList ∉ bindings.entity.filterSet ∨ userLists = []) ∧
      bindings.bindUserLists userLists stored subscribed = .still (bindings, none)) ∨
    (.userList ∈ bindings.entity.filterSet ∧ userLists ≠ [] ∧ ∃ picker : Widget,
      picker.definition = FilterName.userList.definition ∧
      (subscribed = true → picker = bindings.newPicker userLists stored) ∧
      (bindings.bindUserLists userLists stored subscribed).result =
        ((bindings.unbind .userList).result.1.place picker, some userLists.length)) := by
  unfold bindUserLists
  split
  · rename_i unbindable
    rw [Bool.or_eq_true, Bool.not_eq_true', List.isEmpty_iff, ← Bool.not_eq_true,
      List.contains_iff_mem] at unbindable
    exact .inl ⟨unbindable, rfl⟩
  · rename_i bindable
    rw [Bool.or_eq_true, not_or, Bool.not_eq_true', Bool.not_eq_false, List.isEmpty_iff,
      List.contains_iff_mem] at bindable
    refine .inr ⟨bindable.1, bindable.2, _, ?_, ?_, rfl⟩
    · split <;> rfl
    · rintro rfl
      rfl

@[simp] theorem entity_bindUserLists (userLists : List UserList) (stored : Expression)
    (subscribed : Bool) (bindings : Bindings) :
    (bindings.bindUserLists userLists stored subscribed).result.1.entity = bindings.entity := by
  rcases bindUserLists_eq bindings userLists stored subscribed with
    ⟨_, unchanged⟩ | ⟨_, _, _, _, _, bound⟩
  · rw [unchanged]
    rfl
  · rw [bound]
    exact entity_unbind .userList bindings

structure Sound (bindings : Bindings) : Prop where
  subscribed : ∀ widget ∈ bindings.widgets, widget.subscribed = true
  distinct : bindings.names.Nodup

theorem Sound.of_map {before after : Bindings} (sound : before.Sound) (change : Widget → Widget)
    (widgets : after.widgets = before.widgets.map change)
    (remains : ∀ widget ∈ before.widgets, widget.Remains (change widget)) : after.Sound := by
  constructor
  · intro widget member
    rw [widgets] at member
    obtain ⟨old, isBound, rfl⟩ := List.mem_map.1 member
    rw [(remains old isBound).subscribed]
    exact sound.subscribed old isBound
  · rw [names_of_map widgets fun widget isBound => (remains widget isBound).name]
    exact sound.distinct

theorem find?_of_mem {widgets : List Widget} (distinct : (widgets.map Widget.name).Nodup)
    {widget : Widget} (member : widget ∈ widgets) :
    (widgets.find? fun other => other.name = widget.name) = some widget := by
  induction widgets with
  | nil => cases member
  | cons first widgets induction =>
      obtain ⟨fresh, distinct⟩ := List.nodup_cons.1 distinct
      rcases List.mem_cons.1 member with rfl | later
      · simp
      · have different : first.name ≠ widget.name := by
          intro equal
          exact fresh (List.mem_map.2 ⟨widget, later, equal.symm⟩)
        rw [List.find?_cons_of_neg (by simpa using different)]
        exact induction distinct later

theorem Sound.get?_of_mem {bindings : Bindings} (sound : bindings.Sound) {widget : Widget}
    (isBound : widget ∈ bindings.widgets) : bindings.get? widget.name = some widget :=
  find?_of_mem sound.distinct isBound

theorem Sound.eq_of_get? {bindings : Bindings} (sound : bindings.Sound) {name : FilterName}
    {found widget : Widget} (get : bindings.get? name = some found)
    (isBound : widget ∈ bindings.widgets) (named : widget.name = name) : widget = found := by
  have own := sound.get?_of_mem isBound
  rw [named, get] at own
  exact (Option.some.inj own).symm

theorem mem_of_get? {bindings : Bindings} {name : FilterName} {widget : Widget}
    (found : bindings.get? name = some widget) :
    widget ∈ bindings.widgets ∧ widget.name = name := by
  refine ⟨List.mem_of_find?_eq_some found, ?_⟩
  simpa using List.find?_some found

theorem get?_of_map {before after : Bindings} (change : Widget → Widget)
    (widgets : after.widgets = before.widgets.map change)
    (named : ∀ widget ∈ before.widgets, (change widget).name = widget.name) (name : FilterName) :
    after.get? name = (before.get? name).map change := by
  unfold get?
  rw [widgets]
  generalize before.widgets = bound at named
  induction bound with
  | nil => rfl
  | cons widget bound induction =>
      have rest := induction fun other member => named other (List.mem_cons_of_mem _ member)
      rw [List.map_cons, List.find?_cons, List.find?_cons, named widget List.mem_cons_self]
      cases decide (widget.name = name) with
      | true => rfl
      | false => exact rest

def clearOne (widget : Widget) : Drawn (Widget × Bool) :=
  if widget.name = .userList then .still (widget, false) else widget.reset

theorem remains_clearOne (widget : Widget) : widget.Remains (clearOne widget).result.1 := by
  unfold clearOne
  split
  · exact ⟨rfl, rfl⟩
  · exact Widget.remains_reset widget

theorem remains_acceptOne (choices : Choices) (grouping : TagGrouping) (widget : Widget) :
    widget.Remains (acceptOne choices grouping widget).result.1 := by
  unfold acceptOne
  split
  · exact ⟨rfl, rfl⟩
  · split
    · exact Widget.remains_setDomain _ widget
    · exact ⟨rfl, rfl⟩
  · exact ⟨rfl, rfl⟩

theorem sound_bind (entity : EntityType) (stored : Expression) (grouping : TagGrouping) :
    (bind entity stored grouping).result.subscribeAll.Sound := by
  constructor
  · intro widget member
    obtain ⟨before, _, rfl⟩ := List.mem_map.1 member
    rfl
  · rw [names_subscribeAll, names_bind]
    exact entity.filterSet_nodup.filter _

theorem update_eq_self {bindings : Bindings} {name : FilterName} {change : Widget → Drawn Widget}
    (same : ∀ widget ∈ bindings.widgets, widget.name = name → (change widget).result = widget) :
    (bindings.update name change).result = bindings := by
  have widgets : bindings.widgets.map (fun widget =>
      (if widget.name = name then change widget else .still widget : Drawn Widget).result) =
        bindings.widgets := by
    conv => rhs; rw [← List.map_id bindings.widgets]
    apply List.map_congr_left
    intro widget isBound
    split
    · rename_i named
      exact same widget isBound named
    · rfl
  unfold update
  rw [Traced.result_map, Traced.result_each, widgets]
  rfl

section

variable {bindings : Bindings} (sound : bindings.Sound)

include sound

theorem sound_update {name : FilterName} {change : Widget → Drawn Widget}
    (remains : ∀ widget ∈ bindings.widgets, widget.name = name →
      widget.Remains (change widget).result) : (bindings.update name change).result.Sound := by
  refine sound.of_map _ (List.map_congr_left fun _ _ => rfl) ?_
  intro widget isBound
  dsimp only
  split
  · rename_i named
    exact remains widget isBound named
  · exact ⟨rfl, rfl⟩

theorem sound_offer (name : FilterName) (entries : List WhitelistEntry) :
    (bindings.offer name entries).result.1.Sound :=
  sound_update sound fun _ _ _ => ⟨rfl, rfl⟩

theorem sound_setTagGrouping (grouping : TagGrouping) :
    (bindings.setTagGrouping grouping).result.1.Sound := by
  have regrouped : Sound { bindings with grouping } := ⟨sound.subscribed, sound.distinct⟩
  exact sound_offer regrouped .tag _

theorem sound_accept (choices : Choices) : (bindings.accept choices).result.1.Sound := by
  refine sound.of_map (fun widget => (acceptOne choices bindings.grouping widget).result.1)
    (by simp [accept]) ?_
  exact fun widget _ => remains_acceptOne choices bindings.grouping widget

theorem sound_clear : bindings.clear.result.1.Sound := by
  refine sound.of_map (fun widget => (clearOne widget).result.1)
    (by simp [clear, withWidgets, clearOne]) ?_
  exact fun widget _ => remains_clearOne widget

theorem sound_unbind (name : FilterName) : (bindings.unbind name).result.1.Sound := by
  refine ⟨fun widget isBound => sound.subscribed widget (mem_unbind.1 isBound).1, ?_⟩
  rw [names_unbind]
  exact sound.distinct.filter _

theorem sound_place {widget : Widget} (reports : widget.subscribed = true)
    (fresh : widget.name ∉ bindings.names) : (bindings.place widget).Sound := by
  constructor
  · intro other member
    rcases mem_place.1 member with rfl | isBound
    · exact reports
    · exact sound.subscribed other isBound
  · rw [(names_place bindings widget).nodup_iff]
    exact List.nodup_cons.2 ⟨fresh, sound.distinct⟩

theorem sound_bindUserLists (userLists : List UserList) (stored : Expression) :
    (bindings.bindUserLists userLists stored true).result.1.Sound := by
  rcases bindUserLists_eq bindings userLists stored true with
    ⟨_, unchanged⟩ | ⟨_, _, picker, _, isNew, bound⟩
  · rw [unchanged]
    exact sound
  · rw [bound, isNew rfl]
    exact sound_place (sound_unbind sound .userList) rfl (not_mem_names_unbind bindings .userList)

theorem edit?_cases {name : FilterName} {edit : Edit} {edited : Bindings.Edited}
    (found : bindings.edit? name edit = some edited) :
    edited.bindings.entity = bindings.entity ∧ edited.bindings.Sound ∧
      ((edited.changes = [] ∧ edited.bindings = bindings) ∨
        edited.changes = [⟨name, edit.commit⟩]) := by
  obtain ⟨widget, get, rfl⟩ := Option.map_eq_some_iff.1 found
  obtain ⟨isBound, named⟩ := mem_of_get? get
  refine ⟨rfl, ?_, ?_⟩
  · apply sound_update sound
    intro other otherBound otherNamed
    have same := sound.eq_of_get? get otherBound otherNamed
    subst same
    rcases Widget.apply_cases edit (sound.subscribed _ otherBound) with ⟨_, kept⟩ | ⟨_, value, set⟩
    · rw [Traced.result_still, kept]
      exact ⟨rfl, rfl⟩
    · rw [Traced.result_still, set]
      exact ⟨rfl, rfl⟩
  · rcases Widget.apply_cases edit (sound.subscribed _ isBound) with ⟨silent, kept⟩ | ⟨told, _⟩
    · refine .inl ⟨silent, ?_⟩
      dsimp only
      rw [kept]
      exact update_eq_self fun other otherBound otherNamed =>
        (sound.eq_of_get? get otherBound otherNamed).symm
    · rw [named] at told
      exact .inr told

end

theorem build_update {name : FilterName} {change : Widget → Drawn Widget}
    (agrees : ∀ widget : Widget, widget.Agrees (change widget).result) (bindings : Bindings) :
    (bindings.update name change).result.build = bindings.build := by
  unfold build update
  refine congrArg Expression.build ?_
  simp only [Traced.result_map, Traced.result_each, withWidgets, List.map_map]
  apply List.map_congr_left
  intro widget _
  dsimp only [Function.comp]
  split
  · rw [(agrees widget).definition, (agrees widget).value]
  · rfl

theorem build_offer (name : FilterName) (entries : List WhitelistEntry) (bindings : Bindings) :
    (bindings.offer name entries).result.1.build = bindings.build :=
  build_update (Widget.agrees_setWhitelist entries) bindings

end Bindings

end MediaFilter
