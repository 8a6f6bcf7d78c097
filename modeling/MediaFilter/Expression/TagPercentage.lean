import MediaFilter.Definition
import MediaFilter.Expression

/-!
The bounds of the tag percentage mean something only for the tags selected, so they have their
place inside the set clause of the tags.  Bounds that stand beside it move there; without such a
clause they are dropped.
-/

namespace MediaFilter

def SetClause.withTagPercentage (min max : Option Bound) (clause : SetClause) : SetClause :=
  { clause with tagPercentageMin := min, tagPercentageMax := max }

namespace Expression

def tags? (expression : Expression) : Option SetClause :=
  match expression.get? FilterName.tag.wire with
  | some (.set clause) => some clause
  | _ => none

def withoutTagPercentage (expression : Expression) : Expression :=
  (expression.erase FilterName.tagPercentage.minKey).erase FilterName.tagPercentage.maxKey

def relocateTagPercentage (expression : Expression) : Expression :=
  let minKey := FilterName.tagPercentage.minKey
  let maxKey := FilterName.tagPercentage.maxKey
  if expression.contains minKey || expression.contains maxKey then
    let min := expression.bound? minKey
    let max := expression.bound? maxKey
    let rest := expression.withoutTagPercentage
    match rest.tags? with
    | some clause =>
      rest.insert FilterName.tag.wire (.set (clause.withTagPercentage min max))
    | none => rest
  else expression

end Expression

end MediaFilter
