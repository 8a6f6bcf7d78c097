import MediaFilter.Proofs.Session.Turns

/-!
The picker of user lists: whatever is done to the widgets, it selects among the lists that it
offers, and only the lists of a reply ever replace them.
-/

namespace MediaFilter

namespace EntityType

theorem userList_mem_filterSet {entity : EntityType} :
    .userList ∈ entity.filterSet ↔ entity.isMedia = true := by
  cases entity <;> decide

end EntityType

namespace Widget

def Restrained (widget : Widget) : Prop :=
  ∀ selection ∈ widget.value.selection?, ∀ value ∈ selection.values,
    lists widget.whitelist value = true

theorem listed_edited {definition : Definition} (enforced : definition.enforced = true)
    {entries : List WhitelistEntry} {kind : FilterKind} {edit : Edit} {selection : Selection}
    (listed : ∀ value ∈ selection.values, lists entries value = true)
    {found : Option Selection}
    (allowed : editSelection definition entries kind edit selection = .ok found) :
    ∀ value ∈ (selection.edited edit).values, lists entries value = true := by
  intro value member
  cases edit with
  | add added =>
      rcases Selection.mem_values_insert.1 member with before | rfl
      · exact listed value before
      · unfold editSelection at allowed
        dsimp only at allowed
        split at allowed
        · cases allowed
        · rename_i isListed
          simpa [enforced] using isListed
  | remove removed =>
      exact listed value ((Selection.sublist_values_remove removed selection).subset member)
  | toggleExcluded toggled =>
      rw [Selection.edited, Selection.values_toggleExcluded] at member
      exact listed value member
  | _ => exact listed value member

theorem Restrained.apply {widget : Widget} (restrained : widget.Restrained)
    (enforced : widget.definition.enforced = true) (edit : Edit) :
    (widget.apply edit).widget.Restrained ∧
      (widget.apply edit).widget.whitelist = widget.whitelist := by
  cases outcome : widget.editedValue edit with
  | error refusal =>
      rw [apply_of_refused outcome]
      exact ⟨restrained, rfl⟩
  | ok found =>
      rw [widget_apply_of_ok outcome]
      refine ⟨?_, rfl⟩
      intro next isNext
      dsimp only at isNext ⊢
      unfold editedValue at outcome
      unfold Restrained at restrained
      cases held : widget.value with
      | picker selection =>
          rw [held] at outcome restrained isNext
          obtain ⟨inner, allowed, -⟩ := map_ok_iff.1 outcome
          cases isNext
          exact listed_edited enforced (restrained selection rfl) allowed
      | userList selection =>
          rw [held] at outcome restrained isNext
          obtain ⟨inner, allowed, -⟩ := map_ok_iff.1 outcome
          cases isNext
          exact listed_edited enforced (restrained selection rfl) allowed
      | _ =>
          rw [held] at isNext
          cases isNext

theorem listed_firstListed (definition : Definition) (entries : List WhitelistEntry) :
    ∀ selection ∈ (firstListed definition entries).selection?, ∀ value ∈ selection.values,
      lists entries value = true := by
  rintro _ ⟨⟩ value member
  cases entries with
  | nil => cases member
  | cons entry entries =>
      cases List.mem_singleton.1 member
      simp [lists, SelectedValue.including]

theorem listed_listedSelection (definition : Definition) (entries : List WhitelistEntry)
    (restored : Option FilterValue) :
    ∀ selection ∈ (listedSelection definition entries restored).selection?,
      ∀ value ∈ selection.values, lists entries value = true := by
  have chosen : ∀ selection : Selection, ∀ chosen ∈ (if (selection.restrict
      (lists entries)).isEmpty then firstListed definition entries
        else .userList (selection.restrict (lists entries))).selection?,
      ∀ value ∈ chosen.values, lists entries value = true := by
    intro selection
    split
    · exact listed_firstListed definition entries
    · rintro _ ⟨⟩ value member
      obtain ⟨entry, isEntry, rfl⟩ := List.mem_map.1 member
      exact (List.mem_filter.1 isEntry).2
  unfold listedSelection
  dsimp only
  split <;> exact chosen _

end Widget

namespace Bindings

theorem get?_accept (bindings : Bindings) (choices : Choices) (name : FilterName) :
    (bindings.accept choices).result.1.get? name = (bindings.get? name).map fun widget =>
      (acceptOne choices bindings.grouping widget).result.1 :=
  get?_of_map _ (by simp [accept])
    (fun widget _ => (remains_acceptOne choices bindings.grouping widget).name) name

/-- What becomes of a picker whose lists stay: it offers the same, and selects no other. -/
def Keeps (before after : Bindings) : Prop :=
  (after.get? .userList = none → before.get? .userList = none) ∧
    ∀ picker ∈ after.get? .userList, ∃ old ∈ before.get? .userList,
      picker.whitelist = old.whitelist ∧ (old.Restrained → picker.Restrained)

theorem keeps_of_map {before after : Bindings} (change : Widget → Widget)
    (widgets : after.widgets = before.widgets.map change)
    (named : ∀ widget ∈ before.widgets, (change widget).name = widget.name)
    (kept : ∀ widget ∈ before.widgets, widget.name = .userList →
      (change widget).whitelist = widget.whitelist ∧
        (widget.Restrained → (change widget).Restrained)) : before.Keeps after := by
  have found := get?_of_map change widgets named .userList
  refine ⟨?_, ?_⟩
  · intro none
    rw [found] at none
    exact Option.map_eq_none_iff.1 none
  · intro picker isPicker
    rw [found] at isPicker
    obtain ⟨old, isOld, rfl⟩ := Option.map_eq_some_iff.1 isPicker
    obtain ⟨isBound, ofLists⟩ := mem_of_get? isOld
    exact ⟨old, isOld, kept old isBound ofLists⟩

theorem keeps_update {bindings : Bindings} {name : FilterName} {change : Widget → Drawn Widget}
    (named : ∀ widget ∈ bindings.widgets, widget.name = name →
      (change widget).result.name = widget.name)
    (kept : ∀ widget ∈ bindings.widgets, widget.name = name → widget.name = .userList →
      (change widget).result.whitelist = widget.whitelist ∧
        (widget.Restrained → (change widget).result.Restrained)) :
    bindings.Keeps (bindings.update name change).result := by
  refine keeps_of_map _ (List.map_congr_left fun _ _ => rfl) ?_ ?_
  · intro widget isBound
    dsimp only
    split
    · rename_i isNamed
      exact named widget isBound isNamed
    · rfl
  · intro widget isBound ofLists
    dsimp only
    split
    · rename_i isNamed
      exact kept widget isBound isNamed ofLists
    · exact ⟨rfl, id⟩

theorem keeps_setLoading (bindings : Bindings) (name : FilterName) (loading : Bool) :
    bindings.Keeps (bindings.update name fun widget => widget.setLoading loading).result := by
  apply keeps_update
  · intro widget _ _
    exact (widget.agrees_setLoading loading).toRemains.name
  · intro widget _ _ _
    unfold Widget.setLoading
    split <;> exact ⟨rfl, id⟩

theorem keeps_offer {name : FilterName} (other : name ≠ .userList)
    (entries : List WhitelistEntry) (bindings : Bindings) :
    bindings.Keeps (bindings.offer name entries).result.1 := by
  apply keeps_update
  · intro widget _ _
    rfl
  · intro widget _ isNamed ofLists
    exact absurd (isNamed.symm.trans ofLists) other

theorem keeps_edit? {bindings : Bindings} (regular : bindings.Regular) {name : FilterName}
    {edit : Edit} {edited : Bindings.Edited} (found : bindings.edit? name edit = some edited) :
    bindings.Keeps edited.bindings := by
  obtain ⟨widget, get, rfl⟩ := Option.map_eq_some_iff.1 found
  obtain ⟨isBound, named⟩ := mem_of_get? get
  have own := regular.widgets widget isBound
  apply keeps_update
  · intro other _ otherNamed
    rw [Traced.result_still, otherNamed, ← named]
    rcases Widget.apply_cases edit (regular.subscribed widget isBound) with
      ⟨_, kept⟩ | ⟨_, value, set⟩
    · rw [kept]
    · rw [set]
      rfl
  · intro other otherBound otherNamed ofLists
    have same := regular.toSound.eq_of_get? get otherBound otherNamed
    subst same
    have enforced : other.definition.enforced = true := by
      rw [own.definition, ofLists]
      rfl
    refine ⟨?_, fun restrained => (restrained.apply enforced edit).1⟩
    rw [Traced.result_still]
    rcases Widget.apply_cases edit (regular.subscribed other isBound) with
      ⟨_, kept⟩ | ⟨_, value, set⟩
    · rw [kept]
    · rw [set]

theorem keeps_accept {bindings : Bindings} (regular : bindings.Regular) (choices : Choices) :
    bindings.Keeps (bindings.accept choices).result.1 := by
  refine keeps_of_map (fun widget => (acceptOne choices bindings.grouping widget).result.1)
    (by simp [accept]) ?_ ?_
  · exact fun widget _ => (remains_acceptOne choices bindings.grouping widget).name
  · intro widget isBound ofLists
    have source : widget.definition.source = some .userLists := by
      rw [(regular.widgets widget isBound).definition, ofLists]
      rfl
    unfold acceptOne
    rw [source]
    exact ⟨rfl, id⟩

theorem keeps_clear (bindings : Bindings) : bindings.Keeps bindings.clear.result.1 := by
  refine keeps_of_map (fun widget => (clearOne widget).result.1)
    (by simp [clear, withWidgets, clearOne]) ?_ ?_
  · exact fun widget _ => (remains_clearOne widget).name
  · intro widget _ ofLists
    rw [clearOne, if_pos ofLists]
    exact ⟨rfl, id⟩

theorem Keeps.refl (bindings : Bindings) : bindings.Keeps bindings :=
  ⟨id, fun picker found => ⟨picker, found, rfl, id⟩⟩

theorem bindUserLists_cases {bindings : Bindings} (sound : bindings.Sound)
    (userLists : List UserList) (stored : Expression) :
    (bindings.bindUserLists userLists stored true).result = (bindings, none) ∨
      ∃ picker, (bindings.bindUserLists userLists stored true).result.1.get? .userList =
          some picker ∧
        picker.whitelist = userLists.map UserList.toWhitelistEntry ∧
        picker.value = Widget.listedSelection FilterName.userList.definition picker.whitelist
          (bindings.pickedLists stored) := by
  have kept := sound_bindUserLists sound userLists stored
  rcases bindUserLists_eq bindings userLists stored true with
    ⟨_, unchanged⟩ | ⟨_, _, picker, _, isNew, bound⟩
  · rw [unchanged]
    exact .inl rfl
  · rw [bound, isNew rfl] at kept ⊢
    exact .inr ⟨_, kept.get?_of_mem (mem_place.2 (.inl rfl)), rfl, rfl⟩

/-- A picker that is bound to lists offers them and selects among them. -/
theorem picker_of_listed {bindings : Bindings} (regular : bindings.Regular)
    (userLists : List UserList) (stored : Expression) :
    bindings.Keeps (bindings.bindUserLists userLists stored true).result.1 ∨
      ∃ picker, (bindings.bindUserLists userLists stored true).result.1.get? .userList =
          some picker ∧
        picker.whitelist = userLists.map UserList.toWhitelistEntry ∧ picker.Restrained := by
  rcases bindUserLists_cases regular.toSound userLists stored with
    unbound | ⟨picker, found, whitelist, value⟩
  · rw [unbound]
    exact .inl (.refl bindings)
  · refine .inr ⟨picker, found, whitelist, ?_⟩
    rw [Widget.Restrained, value]
    exact Widget.listed_listedSelection _ _ _

theorem Revision.picker {stored : Expression} {input : Input} {before after : Bindings}
    (regular : before.Regular) (revision : Revision stored input before after)
    (apart : ∀ ticket reply, input ≠ .completion (.suggestions .userList ticket reply)) :
    before.Keeps after ∨ ∃ ticket reply picker,
      input = .completion (.userLists ticket (.ok reply)) ∧
        after.get? .userList = some picker ∧
        picker.whitelist = reply.lists.map UserList.toWhitelistEntry ∧ picker.Restrained := by
  cases revision with
  | edited found => exact .inl (keeps_edit? regular found)
  | cleared => exact .inl (keeps_clear before)
  | awaited loading => exact .inl (keeps_setLoading before _ loading)
  | abridged => exact .inl (keeps_offer (by decide) _ before)
  | @regrouped now grouping => exact .inl (keeps_offer (by decide) _ { before with grouping })
  | accepted => exact .inl (keeps_accept regular _)
  | relaxed => exact .inl (keeps_setLoading before _ false)
  | @suggested ticket name entries =>
      refine .inl (keeps_offer ?_ _ before)
      rintro rfl
      exact apart ticket (.ok entries) rfl
  | @listed ticket reply =>
      rcases picker_of_listed regular reply.lists stored with keeps | ⟨picker, found⟩
      · exact .inl keeps
      · exact .inr ⟨ticket, reply, picker, rfl, found⟩

end Bindings

end MediaFilter
