import MediaFilter.Expression.Restore
import MediaFilter.Proofs.Expression.Build

/-!
The bounds of the tag percentage move into the clause of the tags.  The move leaves nothing to
move, so a second one does nothing; it touches no clause but the three that it is about; and where
both bounds are numbers the tag percentage is restored from the one place as from the other.
-/

namespace MediaFilter.Expression

theorem hasTagPercentage_iff {expression : Expression} :
    expression.hasTagPercentage = true ↔
      expression.contains FilterName.tagPercentage.minKey = true ∨
        expression.contains FilterName.tagPercentage.maxKey = true := by
  simp [hasTagPercentage]

theorem relocateTagPercentage_of_absent {expression : Expression}
    (absent : expression.hasTagPercentage = false) :
    expression.relocateTagPercentage = expression := by
  unfold hasTagPercentage at absent
  simp [relocateTagPercentage, absent]

theorem contains_relocateTagPercentage {key : String}
    (isEnd : FilterName.tagPercentage.minKey = key ∨ FilterName.tagPercentage.maxKey = key)
    (expression : Expression) : expression.relocateTagPercentage.contains key = false := by
  simp [contains, get?_relocateTagPercentage, isEnd]

@[simp] theorem hasTagPercentage_relocateTagPercentage (expression : Expression) :
    expression.relocateTagPercentage.hasTagPercentage = false := by
  simp [hasTagPercentage, contains_relocateTagPercentage]

@[simp] theorem relocateTagPercentage_relocateTagPercentage (expression : Expression) :
    expression.relocateTagPercentage.relocateTagPercentage = expression.relocateTagPercentage :=
  relocateTagPercentage_of_absent (hasTagPercentage_relocateTagPercentage expression)

theorem get?_tag_relocateTagPercentage (expression : Expression) :
    expression.relocateTagPercentage.get? FilterName.tag.wire =
      (expression.get? FilterName.tag.wire).map expression.withBounds := by
  simp [get?_relocateTagPercentage, wire_ne_tagPercentage]

theorem get?_tag_of_beside {expression : Expression} {clause : SetClause}
    (tags : expression.get? FilterName.tag.wire = some (.set clause))
    (beside : expression.hasTagPercentage = true) :
    expression.relocateTagPercentage.get? FilterName.tag.wire = some (.set { clause with
      tagPercentageMin := expression.bound? FilterName.tagPercentage.minKey
      tagPercentageMax := expression.bound? FilterName.tagPercentage.maxKey }) := by
  simp [get?_tag_relocateTagPercentage, tags, withBounds, beside, SetClause.withTagPercentage]

theorem get?_tag_of_settled {expression : Expression}
    (settled : ∀ clause, expression.get? FilterName.tag.wire = some (.set clause) →
      expression.hasTagPercentage = false) :
    expression.relocateTagPercentage.get? FilterName.tag.wire =
      expression.get? FilterName.tag.wire := by
  rw [get?_tag_relocateTagPercentage]
  cases found : expression.get? FilterName.tag.wire with
  | none => rfl
  | some clause =>
      cases clause with
      | set clause => simp [withBounds, settled clause found]
      | _ => rfl

theorem restore?_tagPercentage (expression : Expression) :
    expression.restore? FilterName.tagPercentage.definition =
      (rangeEnds? .tagPercentage expression).map fun ends =>
        .range (.within .percent ends.1 ends.2) :=
  Option.map_map ..

theorem rangeEnds?_of_bounds {name : FilterName} {expression : Expression} {least greatest : Bound}
    (min : expression.get? name.minKey = some (.bound least))
    (max : expression.get? name.maxKey = some (.bound greatest)) :
    rangeEnds? name expression = some (least, greatest) := by
  simp [rangeEnds?, bound?, min, max, ends?]

theorem rangeEnds?_of_tags {expression : Expression} {clause : SetClause}
    (absent : expression.hasTagPercentage = false)
    (tags : expression.get? FilterName.tag.wire = some (.set clause)) :
    rangeEnds? .tagPercentage expression =
      ends? clause.tagPercentageMin clause.tagPercentageMax := by
  obtain ⟨noMin, noMax⟩ := hasTagPercentage_eq_false absent
  simp [rangeEnds?, bound?, noMin, noMax, tags?, tags, ends?]

theorem rangeEnds?_relocateTagPercentage {expression : Expression} {clause : SetClause}
    {least greatest : Bound} (tags : expression.get? FilterName.tag.wire = some (.set clause))
    (min : expression.get? FilterName.tagPercentage.minKey = some (.bound least))
    (max : expression.get? FilterName.tagPercentage.maxKey = some (.bound greatest)) :
    rangeEnds? .tagPercentage expression.relocateTagPercentage = some (least, greatest) := by
  have beside : expression.hasTagPercentage = true := by
    simp [hasTagPercentage, contains, min]
  rw [rangeEnds?_of_tags (hasTagPercentage_relocateTagPercentage expression)
    (get?_tag_of_beside tags beside)]
  simp [bound?, min, max, ends?]

/-- A move of the bounds of the tag percentage is one that a second move does not add to.  Nothing
is left beside the tags, and nothing else changes but the two bounds inside their clause: they are
replaced if the tags have a set clause and a bound stood beside it.  Where both bounds stood there
as numbers, the tag percentage is restored to the same range before and after. -/
theorem relocation_confined (expression : Expression) :
    let moved := expression.relocateTagPercentage
    moved.relocateTagPercentage = moved ∧
    (moved.contains FilterName.tagPercentage.minKey = false ∧
      moved.contains FilterName.tagPercentage.maxKey = false) ∧
    (∀ key, key ≠ FilterName.tag.wire → key ≠ FilterName.tagPercentage.minKey →
      key ≠ FilterName.tagPercentage.maxKey → moved.get? key = expression.get? key) ∧
    (∀ clause, expression.get? FilterName.tag.wire = some (.set clause) →
      (expression.contains FilterName.tagPercentage.minKey = true ∨
        expression.contains FilterName.tagPercentage.maxKey = true) →
      moved.get? FilterName.tag.wire = some (.set { clause with
        tagPercentageMin := expression.bound? FilterName.tagPercentage.minKey
        tagPercentageMax := expression.bound? FilterName.tagPercentage.maxKey })) ∧
    ((∀ clause, expression.get? FilterName.tag.wire = some (.set clause) →
        ¬(expression.contains FilterName.tagPercentage.minKey = true ∨
          expression.contains FilterName.tagPercentage.maxKey = true)) →
      moved.get? FilterName.tag.wire = expression.get? FilterName.tag.wire) ∧
    ∀ clause least greatest, expression.get? FilterName.tag.wire = some (.set clause) →
      expression.get? FilterName.tagPercentage.minKey = some (.bound least) →
      expression.get? FilterName.tagPercentage.maxKey = some (.bound greatest) →
      expression.restore? FilterName.tagPercentage.definition =
          some (.range (.within .percent least greatest)) ∧
        moved.restore? FilterName.tagPercentage.definition =
          expression.restore? FilterName.tagPercentage.definition := by
  intro moved
  refine ⟨relocateTagPercentage_relocateTagPercentage expression, ⟨?_, ?_⟩, ?_, ?_, ?_, ?_⟩
  · exact contains_relocateTagPercentage (.inl rfl) expression
  · exact contains_relocateTagPercentage (.inr rfl) expression
  · intro key notTag notMin notMax
    simp [moved, get?_relocateTagPercentage, notTag.symm, notMin.symm, notMax.symm]
  · intro clause tags beside
    exact get?_tag_of_beside tags (hasTagPercentage_iff.2 beside)
  · intro settled
    refine get?_tag_of_settled fun clause tags => ?_
    exact Bool.eq_false_iff.2 fun beside => settled clause tags (hasTagPercentage_iff.1 beside)
  · intro clause least greatest tags min max
    have after := rangeEnds?_relocateTagPercentage tags min max
    simp [moved, restore?_tagPercentage, rangeEnds?_of_bounds min max, after]

def doublyBounded : Expression :=
  ofList [("genre", .text "Action"),
    ("tag", .set ⟨.and, ["Isekai"], ["Gore"], some { val := 25 }, some { val := 30 }⟩),
    ("tagPercentageMax", .bound { val := 15 }), ("tagPercentageMin", .bound { val := 140 })]

theorem relocation_confined_of_doublyBounded :
    doublyBounded.relocateTagPercentage.get? "genre" = some (.text "Action") ∧
      doublyBounded.relocateTagPercentage.get? "tag" = some (.set
        ⟨.and, ["Isekai"], ["Gore"], some { val := 140 }, some { val := 15 }⟩) ∧
      doublyBounded.restore? FilterName.tagPercentage.definition =
        some (.range ⟨{ val := 15 }, { val := 100 }, by decide⟩) ∧
      doublyBounded.relocateTagPercentage.restore? FilterName.tagPercentage.definition =
        some (.range ⟨{ val := 15 }, { val := 100 }, by decide⟩) := by
  obtain ⟨_, _, others, replaced, _, restored⟩ := relocation_confined doublyBounded
  have tags : doublyBounded.get? FilterName.tag.wire = some (.set
      ⟨.and, ["Isekai"], ["Gore"], some { val := 25 }, some { val := 30 }⟩) := by decide +kernel
  have min : doublyBounded.get? FilterName.tagPercentage.minKey = some (.bound { val := 140 }) := by
    decide +kernel
  have max : doublyBounded.get? FilterName.tagPercentage.maxKey = some (.bound { val := 15 }) := by
    decide +kernel
  obtain ⟨before, after⟩ := restored _ _ _ tags min max
  refine ⟨?_, ?_, before, after.trans before⟩
  · exact (others "genre" (by decide) (by decide) (by decide)).trans (by decide +kernel)
  · refine (replaced _ tags (.inl (by decide +kernel))).trans ?_
    simp only [bound?, min, max]

end MediaFilter.Expression
