import MediaFilter.Expression.Restore
import MediaFilter.Proofs.Expression.Build
import MediaFilter.Proofs.Expression.RoundTrip
import MediaFilter.Proofs.Selection.Partition

/-!
Values that their filters can hold come back from the expression built from them: as far as
clauses go, each filter is restored to the value it had.  The tag percentage alone can be lost, and
only where no tags are selected that it could bear on.
-/

namespace MediaFilter

namespace RangeValue

theorem within_eq_self {domain : RangeDomain} {range : RangeValue}
    (low : domain.lo.val ≤ range.min.val) (high : range.max.val ≤ domain.hi.val) :
    within domain range.min range.max = range := by
  have ordered := range.min_le_max
  apply RangeValue.ext
  · apply Bound.ext
    simp only [within, between, RangeDomain.val_clamp, Bound.val_lesser]
    omega
  · apply Bound.ext
    simp only [within, between, RangeDomain.val_clamp, Bound.val_greater]
    omega

theorem within_mem (domain : RangeDomain) (first second : Bound) :
    domain.lo.val ≤ (within domain first second).min.val ∧
      (within domain first second).max.val ≤ domain.hi.val := by
  have ordered := domain.lo_le_hi
  simp only [within, between, RangeDomain.val_clamp]
  omega

end RangeValue

namespace FilterValue

def selection? : FilterValue → Option Selection
  | .picker selection => some selection
  | .userList selection => some selection
  | _ => none

def range? : FilterValue → Option RangeValue
  | .range interval => some interval
  | _ => none

/-- The values that a filter can hold. -/
structure Fits (definition : Definition) (value : FilterValue) : Prop where
  kind : value.kind = definition.kind
  distinct : ∀ selection ∈ value.selection?, selection.values.Nodup
  inDomain : ∀ range ∈ value.range?, ∀ domain ∈ definition.fixedDomain,
    domain.lo.val ≤ range.min.val ∧ range.max.val ≤ domain.hi.val

theorem neutral_fits (definition : Definition) : (neutral definition).Fits definition := by
  refine ⟨kind_neutral definition, ?_, ?_⟩
  · intro selection member
    unfold neutral at member
    split at member <;> cases member <;> exact List.nodup_nil
  · intro range member domain fixed
    unfold neutral at member
    split at member <;> cases member
    have initial : definition.initialDomain = domain := by
      rw [Definition.initialDomain, Option.mem_def.1 fixed]
      rfl
    rw [RangeValue.full, initial]
    exact ⟨Int.le_refl _, Int.le_refl _⟩

end FilterValue

namespace Expression

theorem restoreSelection?_nodup {definition : Definition} {expression : Expression}
    {selection : Selection} (found : restoreSelection? definition expression = some selection) :
    selection.values.Nodup := by
  unfold restoreSelection? at found
  split at found
  · cases found
    exact SetClause.nodup_toSelection _
  · cases found

theorem restoreRange?_mem {definition : Definition} {expression : Expression}
    {range : RangeValue} (found : restoreRange? definition expression = some range)
    {domain : RangeDomain} (fixed : definition.fixedDomain = some domain) :
    domain.lo.val ≤ range.min.val ∧ range.max.val ≤ domain.hi.val := by
  unfold restoreRange? at found
  rw [fixed] at found
  obtain ⟨ends, _, rfl⟩ := Option.map_eq_some_iff.1 found
  exact RangeValue.within_mem domain ends.1 ends.2

theorem restore?_fits {definition : Definition} {expression : Expression} {value : FilterValue}
    (found : restore? definition expression = some value) : value.Fits definition := by
  unfold restore? at found
  split at found <;> rename_i kind <;>
    obtain ⟨content, restored, rfl⟩ := Option.map_eq_some_iff.1 found
  · exact ⟨kind.symm, by simp [FilterValue.selection?], by simp [FilterValue.range?]⟩
  · refine ⟨kind.symm, ?_, by simp [FilterValue.range?]⟩
    rintro _ ⟨⟩
    exact restoreSelection?_nodup restored
  · refine ⟨kind.symm, by simp [FilterValue.selection?], ?_⟩
    rintro _ ⟨⟩ domain fixed
    exact restoreRange?_mem restored fixed
  · exact ⟨kind.symm, by simp [FilterValue.selection?], by simp [FilterValue.range?]⟩
  · refine ⟨kind.symm, ?_, by simp [FilterValue.range?]⟩
    rintro _ ⟨⟩
    exact restoreSelection?_nodup restored

theorem restored_fits (definition : Definition) (expression : Expression) :
    (expression.restored definition).Fits definition := by
  unfold restored
  cases found : restore? definition expression with
  | none => exact FilterValue.neutral_fits definition
  | some value => exact restore?_fits found

/-- Whether an expression holds the clauses of a value under the keys of the filter. -/
def Shows (expression : Expression) (definition : Definition) (value : FilterValue) : Prop :=
  ∀ key ∈ definition.name.keys, expression.get? key = Clauses.get? key (value.clauses definition)

theorem restored_of_restore?_eq_none {definition : Definition} {expression : Expression}
    (nothing : restore? definition expression = none) :
    expression.restored definition = .neutral definition := by
  rw [restored, nothing, Option.getD_none]

theorem restored_text {definition : Definition} (kind : definition.kind = .text)
    {value : TextValue} {expression : Expression}
    (shown : expression.Shows definition (.text value)) :
    (expression.restored definition).clauses definition =
      FilterValue.textClauses definition value := by
  have found : expression.get? definition.name.wire =
      Clauses.get? definition.name.wire (FilterValue.textClauses definition value) :=
    shown definition.name.wire List.mem_cons_self
  by_cases omitted : value.text.isEmpty || !definition.admits value.text
  · rw [FilterValue.textClauses, if_pos omitted] at found ⊢
    have nothing : restore? definition expression = none := by
      simp [restore?, kind, restoreText?, found, Clauses.get?]
    rw [restored_of_restore?_eq_none nothing, FilterValue.neutral, kind]
    rfl
  · rw [FilterValue.textClauses, if_neg omitted] at found ⊢
    by_cases regexCapable : definition.regexCapable
    · rw [if_pos regexCapable] at found ⊢
      have whole : restore? definition expression = some (.text value) := by
        simp [restore?, kind, restoreText?, found, Clauses.get?]
      rw [restored, whole, Option.getD_some, FilterValue.clauses, FilterValue.textClauses,
        if_neg omitted, if_pos regexCapable]
    · rw [if_neg regexCapable] at found ⊢
      have whole : restore? definition expression = some (.text ⟨value.text, false⟩) := by
        simp [restore?, kind, restoreText?, found, Clauses.get?]
      rw [restored, whole, Option.getD_some, FilterValue.clauses, FilterValue.textClauses,
        if_neg omitted, if_neg regexCapable]

theorem restored_checkbox {definition : Definition} (kind : definition.kind = .checkbox)
    {checked : Bool} {expression : Expression}
    (shown : expression.Shows definition (.checkbox checked)) :
    (expression.restored definition).clauses definition =
      (FilterValue.checkbox checked).clauses definition := by
  have found := shown definition.name.wire List.mem_cons_self
  cases checked with
  | false =>
      have nothing : restore? definition expression = none := by
        simp [restore?, kind, restoreChecked?, found, FilterValue.clauses, Clauses.get?]
      rw [restored_of_restore?_eq_none nothing]
      simp [FilterValue.neutral, kind]
  | true =>
      have whole : restore? definition expression = some (.checkbox true) := by
        simp [restore?, kind, restoreChecked?, found, FilterValue.clauses, Clauses.get?]
      rw [restored, whole, Option.getD_some]

theorem restoreRange?_of_ends {definition : Definition} {range : RangeValue}
    (fits : (FilterValue.range range).Fits definition) {expression : Expression}
    (ends : rangeEnds? definition.name expression = some (range.min, range.max)) :
    restoreRange? definition expression = some range := by
  rw [restoreRange?, ends, Option.map_some]
  cases fixed : definition.fixedDomain with
  | some domain =>
      obtain ⟨low, high⟩ := fits.inDomain range rfl domain fixed
      exact congrArg some (RangeValue.within_eq_self low high)
  | none =>
      refine congrArg some (RangeValue.within_eq_self ?_ ?_)
      · simp only [RangeDomain.between, Bound.val_lesser, Bound.val_greater]
        omega
      · simp only [RangeDomain.between, Bound.val_lesser, Bound.val_greater]
        omega

theorem restored_range_of_ends {definition : Definition} {range : RangeValue}
    (fits : (FilterValue.range range).Fits definition) {expression : Expression}
    (ends : rangeEnds? definition.name expression = some (range.min, range.max)) :
    expression.restored definition = .range range := by
  have kind : definition.kind = .range := fits.kind.symm
  rw [restored, restore?, kind]
  simp only
  rw [restoreRange?_of_ends fits ends]
  rfl

theorem restored_range {definition : Definition} {range : RangeValue}
    (fits : (FilterValue.range range).Fits definition) {expression : Expression}
    (shown : expression.Shows definition (.range range)) :
    expression.restored definition = .range range := by
  refine restored_range_of_ends fits ?_
  have min : expression.bound? definition.name.minKey = some range.min := by
    rw [bound?, shown _ (by simp [FilterName.keys])]
    simp [FilterValue.clauses, Clauses.get?]
  have max : expression.bound? definition.name.maxKey = some range.max := by
    rw [bound?, shown _ (by simp [FilterName.keys])]
    simp [FilterValue.clauses, Clauses.get?_cons, FilterName.minKey_ne_maxKey]
  rw [rangeEnds?, min, max]
  rfl

/-! The clause of a selection may have taken up bounds of the tag percentage. -/

theorem selectionClauses_congr (definition : Definition) {first second : Selection}
    (same : SetClause.ofSelection first = SetClause.ofSelection second) :
    FilterValue.selectionClauses definition first =
      FilterValue.selectionClauses definition second := by
  obtain ⟨_, included, excluded, _⟩ := SetClause.mk.inj same
  have empty : first.isEmpty = second.isEmpty := by
    rw [Bool.eq_iff_iff, Selection.isEmpty_iff, Selection.isEmpty_iff, included, excluded]
  rw [FilterValue.selectionClauses, FilterValue.selectionClauses, empty, same]

theorem restored_of_restoreSelection? {definition : Definition}
    (kind : definition.kind = .picker ∨ definition.kind = .userList) (expression : Expression) :
    (expression.restored definition).clauses definition =
      FilterValue.selectionClauses definition
        ((restoreSelection? definition expression).getD (.empty definition.combinator)) := by
  unfold restored restore? FilterValue.neutral
  rcases kind with kind | kind <;> rw [kind] <;> dsimp only <;>
    cases restoreSelection? definition expression <;> rfl

theorem restored_empty {definition : Definition}
    (kind : definition.kind = .picker ∨ definition.kind = .userList) {expression : Expression}
    (nothing : expression.get? definition.name.wire = none) :
    (expression.restored definition).clauses definition = [] := by
  rw [restored_of_restoreSelection? kind, restoreSelection?, nothing]
  rfl

theorem restored_selection {definition : Definition}
    (kind : definition.kind = .picker ∨ definition.kind = .userList) {selection : Selection}
    (distinct : selection.values.Nodup) {expression : Expression} {min max : Option Bound}
    (found : expression.get? definition.name.wire =
      some (.set ((SetClause.ofSelection selection).withTagPercentage min max))) :
    (expression.restored definition).clauses definition =
      FilterValue.selectionClauses definition selection := by
  rw [restored_of_restoreSelection? kind, restoreSelection?, found]
  refine selectionClauses_congr definition ?_
  exact SetClause.ofSelection_toSelection (Selection.nodup_included_append_excluded distinct)

theorem restored_of_shows {definition : Definition} {value : FilterValue}
    (fits : value.Fits definition) {expression : Expression}
    (shown : expression.Shows definition value) :
    (expression.restored definition).clauses definition = value.clauses definition := by
  have ofSelection : ∀ selection : Selection,
      (definition.kind = .picker ∨ definition.kind = .userList) → selection.values.Nodup →
      expression.get? definition.name.wire =
        Clauses.get? definition.name.wire (FilterValue.selectionClauses definition selection) →
      (expression.restored definition).clauses definition =
        FilterValue.selectionClauses definition selection := by
    intro selection kind distinct found
    by_cases empty : selection.isEmpty
    · rw [FilterValue.selectionClauses, if_pos empty] at found ⊢
      exact restored_empty kind found
    · have asSet : expression.get? definition.name.wire =
          some (.set ((SetClause.ofSelection selection).withTagPercentage none none)) := by
        rw [found, FilterValue.selectionClauses, if_neg empty, Clauses.get?_cons, if_pos rfl]
        rfl
      exact restored_selection kind distinct asSet
  have byName := shown definition.name.wire List.mem_cons_self
  cases value with
  | text value => exact restored_text fits.kind.symm shown
  | picker selection =>
      exact ofSelection selection (.inl fits.kind.symm) (fits.distinct selection rfl) byName
  | range value => rw [restored_range fits shown]
  | checkbox checked => exact restored_checkbox fits.kind.symm shown
  | userList selection =>
      exact ofSelection selection (.inr fits.kind.symm) (fits.distinct selection rfl) byName

end Expression

end MediaFilter
