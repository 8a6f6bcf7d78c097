import MediaFilter.Proofs.Session.Regularity

/-!
What becomes of each widget in a response.  All widgets have a property ever after if those that
are bound anew have it, and every alteration of a single widget keeps it.
-/

namespace MediaFilter

/-- The filter whose lookup an input starts, gives up or answers. -/
def Input.lookup? : Input → Option FilterName
  | .command _ (.query filter _) => some filter
  | .completion (.suggestions filter _ _) => some filter
  | _ => none

inductive Widget.Altered (input : Input) (before : Widget) : Widget → Prop
  | kept : Altered input before before
  | edited {edit : Edit} {value : FilterValue}
      (edited : before.editedValue edit = .ok (some value)) :
      Altered input before { before with value := value }
  | cleared : Altered input before before.reset.result.1
  | offered (entries : List WhitelistEntry) :
      Altered input before (before.setWhitelist entries).result
  | resized (domain : RangeDomain) : Altered input before (before.setDomain domain).result
  | awaited {filter : FilterName} (looksUp : input.lookup? = some filter) (loading : Bool) :
      Altered input before (before.setLoading loading).result

namespace Widget

theorem result_setLoading (loading : Bool) (widget : Widget) :
    (widget.setLoading loading).result = { widget with loading := loading } := by
  unfold setLoading
  split
  · rename_i same
    cases widget
    cases same
    rfl
  · rfl

variable {input : Input}

theorem altered_apply (edit : Edit) (widget : Widget) :
    widget.Altered input (widget.apply edit).widget := by
  unfold apply
  split
  · exact .kept
  · exact .kept
  · rename_i value edited
    exact .edited edited

theorem Altered.definition {before after : Widget} (altered : before.Altered input after) :
    after.definition = before.definition := by
  cases altered with
  | cleared => exact (remains_reset before).definition
  | resized domain => exact (remains_setDomain domain before).definition
  | awaited looksUp loading => exact (agrees_setLoading loading before).definition
  | _ => rfl

theorem Altered.name {before after : Widget} (altered : before.Altered input after) :
    after.name = before.name := congrArg Definition.name altered.definition

theorem Altered.loading {before after : Widget} (altered : before.Altered input after)
    (apart : input.lookup? = none) : after.loading = before.loading := by
  cases altered with
  | cleared =>
      unfold reset
      split <;> rfl
  | resized domain =>
      unfold setDomain
      split <;> rfl
  | awaited looksUp loading =>
      rw [apart] at looksUp
      cases looksUp
  | _ => rfl

end Widget

namespace Bindings

theorem mem_update {bindings : Bindings} {name : FilterName} {change : Widget → Drawn Widget}
    {widget : Widget} (isBound : widget ∈ (bindings.update name change).result.widgets) :
    ∃ old ∈ bindings.widgets, (old.name = name ∧ (change old).result = widget) ∨
      (old.name ≠ name ∧ old = widget) := by
  obtain ⟨old, wasBound, rfl⟩ := List.mem_map.1 isBound
  refine ⟨old, wasBound, ?_⟩
  dsimp only
  split
  · rename_i named
    exact .inl ⟨named, rfl⟩
  · rename_i other
    exact .inr ⟨other, rfl⟩

theorem result_update_of_absent {bindings : Bindings} {name : FilterName}
    (absent : bindings.get? name = none) (change : Widget → Drawn Widget) :
    (bindings.update name change).result = bindings :=
  update_eq_self fun widget isBound named =>
    absurd (mem_names.2 ⟨widget, isBound, named⟩) (get?_eq_none_iff.1 absent)

section

variable {input : Input}

theorem altered_update {bindings : Bindings} {name : FilterName}
    {change : Widget → Drawn Widget}
    (altered : ∀ widget ∈ bindings.widgets, widget.name = name →
      widget.Altered input (change widget).result) :
    ∀ widget ∈ (bindings.update name change).result.widgets,
      ∃ old ∈ bindings.widgets, old.Altered input widget := by
  intro widget isBound
  obtain ⟨old, wasBound, ⟨named, rfl⟩ | ⟨_, rfl⟩⟩ := mem_update isBound
  · exact ⟨old, wasBound, altered old wasBound named⟩
  · exact ⟨old, wasBound, .kept⟩

theorem altered_acceptOne (choices : Choices) (grouping : TagGrouping) (widget : Widget) :
    widget.Altered input (acceptOne choices grouping widget).result.1 := by
  unfold acceptOne
  split
  · exact .offered _
  · split
    · exact .resized _
    · exact .kept
  · exact .kept

theorem altered_clearOne (widget : Widget) : widget.Altered input (clearOne widget).result.1 := by
  unfold clearOne
  split
  · exact .kept
  · exact .cleared

theorem altered_edit? {bindings : Bindings} (sound : bindings.Sound) {name : FilterName}
    {edit : Edit} {edited : Bindings.Edited} (found : bindings.edit? name edit = some edited) :
    ∀ widget ∈ edited.bindings.widgets,
      ∃ old ∈ bindings.widgets, old.Altered input widget := by
  obtain ⟨own, get, rfl⟩ := Option.map_eq_some_iff.1 found
  apply altered_update
  intro widget isBound named
  rw [Traced.result_still, sound.eq_of_get? get isBound named]
  exact own.altered_apply edit

end

theorem mem_bindUserLists {bindings : Bindings} {userLists : List UserList} {stored : Expression}
    {widget : Widget}
    (isBound : widget ∈ (bindings.bindUserLists userLists stored true).result.1.widgets) :
    widget ∈ bindings.widgets ∨ widget = bindings.newPicker userLists stored := by
  rcases bindUserLists_eq bindings userLists stored true with
    ⟨_, unchanged⟩ | ⟨_, _, picker, _, isNew, bound⟩
  · rw [unchanged] at isBound
    exact .inl isBound
  · rw [bound, isNew rfl] at isBound
    rcases mem_place.1 isBound with added | kept
    · exact .inr added
    · exact .inl (mem_unbind.1 kept).1

/-- Every widget after a revision was bound before it, but for a new picker of user lists. -/
theorem Revision.altered {stored : Expression} {input : Input} {before after : Bindings}
    (sound : before.Sound) (revision : Revision stored input before after) :
    ∀ widget ∈ after.widgets, (∃ old ∈ before.widgets, old.Altered input widget) ∨
      ∃ userLists, widget = before.newPicker userLists stored := by
  intro widget isBound
  cases revision with
  | edited found => exact .inl (altered_edit? sound found widget isBound)
  | cleared =>
      have isCleared : widget ∈ before.widgets.map fun old => (clearOne old).result.1 := by
        simpa [clear, withWidgets, clearOne] using isBound
      obtain ⟨old, wasBound, rfl⟩ := List.mem_map.1 isCleared
      exact .inl ⟨old, wasBound, altered_clearOne old⟩
  | awaited loading =>
      exact .inl (altered_update (fun _ _ _ => .awaited rfl loading) widget isBound)
  | abridged => exact .inl (altered_update (fun _ _ _ => .offered _) widget isBound)
  | regrouped => exact .inl (altered_update (fun _ _ _ => .offered _) widget isBound)
  | @accepted ticket choices =>
      have isServed : widget ∈ before.widgets.map fun old =>
          (acceptOne choices before.grouping old).result.1 := by
        simpa [accept] using isBound
      obtain ⟨old, wasBound, rfl⟩ := List.mem_map.1 isServed
      exact .inl ⟨old, wasBound, altered_acceptOne choices before.grouping old⟩
  | relaxed => exact .inl (altered_update (fun _ _ _ => .awaited rfl false) widget isBound)
  | suggested => exact .inl (altered_update (fun _ _ _ => .offered _) widget isBound)
  | @listed ticket reply =>
      rcases mem_bindUserLists isBound with kept | added
      · exact .inl ⟨widget, kept, .kept⟩
      · exact .inr ⟨reply.lists, added⟩

end Bindings

namespace Session

theorem with_bindings {session : Session} {bindings : Bindings}
    (bound : session.bindings = some bindings) :
    { session with bindings := some bindings } = session := by
  cases session
  cases bound
  rfl

def Every (holds : Widget → Prop) (session : Session) : Prop :=
  ∀ bindings ∈ session.bindings, ∀ widget ∈ bindings.widgets, holds widget

theorem every_start (holds : Widget → Prop) (config : SessionConfig) (store : FaultyStore) :
    (start config store).Every holds := by
  rintro _ ⟨⟩

section

variable {holds : Widget → Prop} {input : Input}
  (altered : ∀ {before after : Widget}, holds before → before.Altered input after → holds after)
  (picker : ∀ bindings userLists stored, holds (Bindings.newPicker bindings userLists stored))
  (fresh : ∀ now entity, input = .command now (.switchEntity entity) →
    ∀ stored name, holds (Bindings.boundFor entity stored name))

include altered picker fresh

theorem Every.turn {before after : Session} {effects : List Effect} (every : before.Every holds)
    (regular : before.Regular) (turn : Turn input before effects after) : after.Every holds := by
  cases turn with
  | shown unmoved silent =>
      rw [Every, unmoved.bindings]
      exact every
  | revised bound revision =>
      rintro _ ⟨⟩ widget isBound
      rcases revision.altered (regular _ bound).toSound widget isBound with
        ⟨old, wasBound, change⟩ | ⟨userLists, rfl⟩
      · exact altered (every _ bound old wasBound) change
      · exact picker _ _ _
  | evaluated =>
      rw [Every, bindings_evaluate]
      exact every
  | adopted bound =>
      rintro _ ⟨⟩
      exact every _ bound
  | @succeeded now name _ changed bindings bound change =>
      have rest : changed.Every holds := by
        rw [change]
        rintro _ ⟨⟩ widget isBound
        exact every _ bound widget (Bindings.mem_unbind.1 isBound).1
      have kept : changed.evaluate.result.Every holds := by
        rw [Every, bindings_evaluate]
        exact rest
      exact kept
  | @switched now entity _ opened _ opening bind =>
      rintro _ ⟨⟩ widget isBound
      rw [bind] at isBound
      obtain ⟨name, _, _, rfl⟩ := Bindings.mem_bind.1 isBound
      exact fresh now entity rfl _ name
  | _ => exact every

theorem Every.respond {session : Session} (every : session.Every holds)
    (regular : session.Regular) : (session.respond input).result.Every holds := by
  refine ((takes_respond session input).kept (fun after => after.Regular ∧ after.Every holds)
    (fun _ => True) ?_ ⟨regular, every⟩).1.2
  intro before after effects ⟨regular, every⟩ turn
  exact ⟨⟨(turn.regular regular).1, every.turn altered picker fresh regular turn⟩,
    fun _ _ => trivial⟩

end

end Session

end MediaFilter
