import MediaFilter.Proofs.Bindings.Regularity

/-!
Which edits a widget refuses, told from its filter, its kind of value and what it offers.
-/

namespace MediaFilter

def Edit.kinds : Edit → List FilterKind
  | .write _ | .toggleRegex => [.text]
  | .add _ | .remove _ | .toggleExcluded _ | .toggleCombinator => [.picker, .userList]
  | .setMin _ | .setMax _ | .slide _ _ => [.range]
  | .check _ => [.checkbox]

def Definition.Selects (definition : Definition) : Prop :=
  definition.kind = .picker ∨ definition.kind = .userList

namespace Widget

/-- Why a widget refuses an edit. -/
inductive Denies (widget : Widget) : Edit → Refusal → Prop
  | inapplicable {edit : Edit} (other : widget.definition.kind ∉ edit.kinds) :
      Denies widget edit (.inapplicable edit widget.definition.kind widget.name)
  | regexMode (text : widget.definition.kind = .text)
      (plain : widget.definition.regexCapable = false) :
      Denies widget .toggleRegex (.unable widget.name .regexMode)
  | unlisted {value : String} (selects : widget.definition.Selects)
      (enforced : widget.definition.enforced = true)
      (unlisted : lists widget.whitelist value = false) :
      Denies widget (.add value) (.unlisted value widget.definition.label)
  | exclusion {value : String} (selects : widget.definition.Selects)
      (inclusive : widget.definition.excludable = false) :
      Denies widget (.toggleExcluded value) (.unable widget.name .exclusion)
  /-- User lists can be excluded only while they are combined with AND. -/
  | combined {value : String} {selection : Selection} (held : widget.value = .userList selection)
      (excludable : widget.definition.excludable = true)
      (combinator : selection.combinator ≠ .and) :
      Denies widget (.toggleExcluded value) (.excludesOnlyUnderAnd widget.definition.label)
  | combinator (selects : widget.definition.Selects)
      (fixed : widget.definition.allowsCombinatorSwitch = false) :
      Denies widget .toggleCombinator (.unable widget.name .combinatorSwitch)

theorem map_error_iff {α β : Type} {wrap : α → β} {outcome : Except Refusal α}
    {refusal : Refusal} : outcome.map wrap = .error refusal ↔ outcome = .error refusal := by
  cases outcome <;> simp [Except.map]

section

variable {widget : Widget} {edit : Edit} {refusal : Refusal}

theorem editText_error_iff (kind : widget.definition.kind = .text) {value : TextValue}
    (held : widget.value = .text value) :
    editText widget.definition edit value = .error refusal ↔ widget.Denies edit refusal := by
  constructor
  · intro refused
    unfold editText at refused
    cases edit with
    | write text => cases refused
    | toggleRegex =>
        dsimp only at refused
        split at refused
        · cases refused
        · rename_i plain
          cases refused
          exact .regexMode kind (Bool.eq_false_iff.2 plain)
    | _ =>
        cases refused
        rw [← kind]
        exact .inapplicable (by simp [kind, Edit.kinds])
  · intro denies
    cases denies with
    | inapplicable other =>
        rw [kind] at other ⊢
        cases edit with
        | write text => simp [Edit.kinds] at other
        | toggleRegex => simp [Edit.kinds] at other
        | _ => rfl
    | regexMode _ plain =>
        rw [editText, plain]
        rfl
    | combined own => cases own.symm.trans held
    | _ selects => simp [Definition.Selects, kind] at selects

theorem editRange_error_iff (kind : widget.definition.kind = .range) {range : RangeValue}
    (held : widget.value = .range range) :
    editRange widget.definition widget.domain edit range = .error refusal ↔
      widget.Denies edit refusal := by
  constructor
  · intro refused
    unfold editRange at refused
    cases edit with
    | setMin value => cases refused
    | setMax value => cases refused
    | slide min max => cases refused
    | _ =>
        cases refused
        rw [← kind]
        exact .inapplicable (by simp [kind, Edit.kinds])
  · intro denies
    cases denies with
    | inapplicable other =>
        rw [kind] at other ⊢
        cases edit with
        | setMin value => simp [Edit.kinds] at other
        | setMax value => simp [Edit.kinds] at other
        | slide min max => simp [Edit.kinds] at other
        | _ => rfl
    | regexMode text => cases text.symm.trans kind
    | combined own => cases own.symm.trans held
    | _ selects => simp [Definition.Selects, kind] at selects

theorem editChecked_error_iff (kind : widget.definition.kind = .checkbox) {checked : Bool}
    (held : widget.value = .checkbox checked) :
    editChecked widget.definition edit checked = .error refusal ↔ widget.Denies edit refusal := by
  constructor
  · intro refused
    unfold editChecked at refused
    cases edit with
    | check next => cases refused
    | _ =>
        cases refused
        rw [← kind]
        exact .inapplicable (by simp [kind, Edit.kinds])
  · intro denies
    cases denies with
    | inapplicable other =>
        rw [kind] at other ⊢
        cases edit with
        | check next => simp [Edit.kinds] at other
        | _ => rfl
    | regexMode text => cases text.symm.trans kind
    | combined own => cases own.symm.trans held
    | _ selects => simp [Definition.Selects, kind] at selects

theorem editSelection_error_iff (kind : widget.value.kind = widget.definition.kind)
    {selection : Selection} (held : widget.value.selection? = some selection) :
    editSelection widget.definition widget.whitelist widget.definition.kind edit selection =
      .error refusal ↔ widget.Denies edit refusal := by
  have selects : widget.definition.Selects := by
    cases value : widget.value with
    | picker other => exact .inl (by rw [← kind, value]; rfl)
    | userList other => exact .inr (by rw [← kind, value]; rfl)
    | _ =>
        rw [value] at held
        cases held
  have ofLists : widget.definition.kind = .userList → widget.value = .userList selection := by
    intro isLists
    rw [isLists] at kind
    cases value : widget.value with
    | userList other =>
        rw [value] at held
        cases held
        rfl
    | _ =>
        rw [value] at kind
        cases kind
  constructor
  · intro refused
    unfold editSelection at refused
    cases edit with
    | add value =>
        dsimp only at refused
        split at refused
        · rename_i foreign
          cases refused
          rw [Bool.and_eq_true, Bool.not_eq_true'] at foreign
          exact .unlisted selects foreign.1 foreign.2
        · cases refused
    | remove value => cases refused
    | toggleExcluded value =>
        dsimp only at refused
        split at refused
        · rename_i inclusive
          cases refused
          exact .exclusion selects (by simpa using inclusive)
        rename_i excludable
        split at refused
        · rename_i combined
          cases refused
          exact .combined (ofLists combined.1) (by simpa using excludable) combined.2
        · cases refused
    | toggleCombinator =>
        dsimp only at refused
        split at refused
        · cases refused
        · rename_i fixed
          cases refused
          exact .combinator selects (Bool.eq_false_iff.2 fixed)
    | _ =>
        cases refused
        refine .inapplicable fun applies => ?_
        rcases selects with kind | kind <;> simp [kind, Edit.kinds] at applies
  · intro denies
    cases denies with
    | inapplicable other =>
        have own : widget.definition.kind ∈ [FilterKind.picker, .userList] := by
          simpa [Definition.Selects] using selects
        cases edit with
        | add value => exact absurd own other
        | remove value => exact absurd own other
        | toggleExcluded value => exact absurd own other
        | toggleCombinator => exact absurd own other
        | _ => rfl
    | regexMode text => rcases selects with kind | kind <;> cases text.symm.trans kind
    | unlisted _ enforced unlisted => simp [editSelection, enforced, unlisted]
    | exclusion _ inclusive =>
        rw [editSelection, inclusive]
        rfl
    | combined own excludable combinator =>
        rw [own] at kind held
        cases held
        simp [editSelection, excludable, combinator, ← kind, FilterValue.kind]
    | combinator _ fixed =>
        rw [editSelection, fixed]
        rfl

/-- The edits that a widget refuses, as long as it holds a value of its kind. -/
theorem editedValue_error_iff (kind : widget.value.kind = widget.definition.kind) :
    widget.editedValue edit = .error refusal ↔ widget.Denies edit refusal := by
  unfold editedValue
  cases held : widget.value with
  | text value =>
      rw [held] at kind
      rw [map_error_iff, editText_error_iff kind.symm held]
  | range range =>
      rw [held] at kind
      rw [map_error_iff, editRange_error_iff kind.symm held]
  | checkbox checked =>
      rw [held] at kind
      rw [map_error_iff, editChecked_error_iff kind.symm held]
  | picker selection =>
      have selected : widget.value.selection? = some selection := by rw [held]; rfl
      rw [map_error_iff, ← editSelection_error_iff kind selected, ← kind, held]
      rfl
  | userList selection =>
      have selected : widget.value.selection? = some selection := by rw [held]; rfl
      rw [map_error_iff, ← editSelection_error_iff kind selected, ← kind, held]
      rfl

end

end Widget

end MediaFilter
