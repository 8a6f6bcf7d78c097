import MediaFilter.Proofs.Bindings.Refusal
import MediaFilter.Proofs.Widget.Edits

/-!
What is told of an edit: whether it changed the value, and once to whoever is subscribed if it did.
-/

namespace MediaFilter

inductive Edit.Typed : Edit → Prop
  | write (text : String) : Typed (.write text)
  | setMin (value : Bound) : Typed (.setMin value)
  | setMax (value : Bound) : Typed (.setMax value)

theorem Edit.commit_eq_debounced_iff {edit : Edit} : edit.commit = .debounced ↔ edit.Typed := by
  constructor
  · intro waits
    cases edit with
    | write text => exact .write text
    | setMin value => exact .setMin value
    | setMax value => exact .setMax value
    | _ => cases waits
  · intro typed
    cases typed <;> rfl

namespace Widget

/-- Whether the outcome of an edit tells what the edit did. -/
structure Reports (widget : Widget) (edit : Edit) (edited : Edited) : Prop where
  refused : ∀ refusal, edited.outcome = .error refusal ↔ widget.Denies edit refusal
  taken : ∀ moved, edited.outcome = .ok moved →
    edited.widget.value = widget.value.edited widget.domain edit
  moved : edited.outcome = .ok true ↔ edited.widget.value ≠ widget.value
  unmoved : edited.outcome ≠ .ok true → edited.widget = widget
  frame : edited.widget = { widget with value := edited.widget.value }
  announced : edited.outcome = .ok true →
    edited.changes = if widget.subscribed then [⟨widget.name, edit.commit⟩] else []
  silent : edited.outcome ≠ .ok true → edited.changes = []
  waits : ∀ change ∈ edited.changes, change.commit = .debounced ↔ edit.Typed

/-- An edit of any widget that holds a value of its kind says that it changed the value exactly
where it did, and is announced once to whoever is subscribed exactly then. -/
theorem apply_reports (edit : Edit) {widget : Widget}
    (kind : widget.value.kind = widget.definition.kind) :
    widget.Reports edit (widget.apply edit) := by
  cases result : widget.editedValue edit with
  | error refusal =>
      rw [apply_of_refused result]
      refine ⟨fun other => ?_, nofun, ⟨nofun, fun differs => absurd rfl differs⟩, fun _ => rfl, rfl,
        nofun, fun _ => rfl, nofun⟩
      rw [← editedValue_error_iff kind, result, Except.error.injEq, Except.error.injEq]
  | ok found =>
      have allowed : ∀ refusal, ¬ widget.Denies edit refusal := by
        intro refusal denies
        rw [← editedValue_error_iff kind, result] at denies
        cases denies
      by_cases same : widget.value.edited widget.domain edit = widget.value
      · rw [apply_of_same result same]
        exact ⟨fun refusal => ⟨nofun, fun denies => absurd denies (allowed refusal)⟩,
          fun _ _ => same.symm, ⟨nofun, fun differs => absurd rfl differs⟩, fun _ => rfl, rfl,
          nofun, fun _ => rfl, nofun⟩
      · rw [apply_of_moved result same]
        refine ⟨fun refusal => ⟨nofun, fun denies => absurd denies (allowed refusal)⟩,
          fun _ _ => rfl, ⟨fun _ => same, fun _ => rfl⟩, fun other => absurd rfl other, rfl,
          fun _ => rfl, fun other => absurd rfl other, ?_⟩
        intro change member
        dsimp only at member
        split at member
        · rw [List.mem_singleton.1 member]
          exact Edit.commit_eq_debounced_iff
        · cases member

theorem apply_reports_of_typed_maximum :
    let widget : Widget :=
      { definition := FilterName.episodes.definition
        entity := .anime
        value := .range { min := { val := 0 }, max := { val := 150 } }
        whitelist := []
        domain := { lo := { val := 0 }, hi := { val := 150 } }
        loading := false
        subscribed := true }
    let edit : Edit := .setMax { val := 24 }
    widget.value.kind = widget.definition.kind ∧ widget.Reports edit (widget.apply edit) ∧
      (widget.apply edit).changes = [⟨.episodes, .debounced⟩] :=
  ⟨rfl, apply_reports _ rfl, by decide +kernel⟩

end Widget

end MediaFilter
