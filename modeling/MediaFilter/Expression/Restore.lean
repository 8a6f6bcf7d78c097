import MediaFilter.Expression.Build
import MediaFilter.FilterSet

/-!
The value that a filter had when an expression was built.  A clause of another form than the
filter's own restores nothing.
-/

namespace MediaFilter.Expression

def restoreText? (definition : Definition) (expression : Expression) : Option TextValue :=
  match expression.get? definition.name.wire with
  | some (.text text) => some ⟨text, false⟩
  | some (.pattern pattern) => some ⟨pattern.value, pattern.regex⟩
  | _ => none

def restoreSelection? (definition : Definition) (expression : Expression) : Option Selection :=
  match expression.get? definition.name.wire with
  | some (.set clause) => some clause.toSelection
  | _ => none

def restoreChecked? (definition : Definition) (expression : Expression) : Option Bool :=
  match expression.get? definition.name.wire with
  | some (.flag checked) => some checked
  | _ => none

def ends? (min max : Option Bound) : Option (Bound × Bound) :=
  match min, max with
  | some min, some max => some (min, max)
  | _, _ => none

/-- The two ends of a range filter.  Those of the tag percentage may also stand inside the clause
of the tags. -/
def rangeEnds? (name : FilterName) (expression : Expression) : Option (Bound × Bound) :=
  match ends? (expression.bound? name.minKey) (expression.bound? name.maxKey) with
  | some ends => some ends
  | none =>
    if name = .tagPercentage then
      expression.tags?.bind fun clause => ends? clause.tagPercentageMin clause.tagPercentageMax
    else none

/-- The ends stay within a fixed domain; without one they widen the domain at first. -/
def restoreRange? (definition : Definition) (expression : Expression) : Option RangeValue :=
  (rangeEnds? definition.name expression).map fun ends =>
    let domain :=
      match definition.fixedDomain with
      | some domain => domain
      | none =>
        RangeDomain.between (ends.1.lesser definition.initialDomain.lo)
          (ends.2.greater definition.initialDomain.hi)
    RangeValue.within domain ends.1 ends.2

def restore? (definition : Definition) (expression : Expression) : Option FilterValue :=
  match definition.kind with
  | .text => (restoreText? definition expression).map .text
  | .picker => (restoreSelection? definition expression).map .picker
  | .range => (restoreRange? definition expression).map .range
  | .checkbox => (restoreChecked? definition expression).map .checkbox
  | .userList => (restoreSelection? definition expression).map .userList

def restored (definition : Definition) (expression : Expression) : FilterValue :=
  (restore? definition expression).getD (.neutral definition)

/-- What is left of an expression after its values were restored to the filters of an entity
type and built again. -/
def normalize (entity : EntityType) (expression : Expression) : Expression :=
  build (entity.definitions.map fun definition => (definition, expression.restored definition))

end MediaFilter.Expression
