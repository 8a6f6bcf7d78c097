import MediaFilter.DateMask
import MediaFilter.Expression.TagPercentage
import MediaFilter.FilterValue

/-!
The expression that the values of filters stand for.  Empty values and text that does not satisfy
its mask are left out; a range always shows both ends.
-/

namespace MediaFilter

def Mask.accepts : Mask → String → Bool
  | .date, text => DateMask.accepts text.toList

def Definition.admits (definition : Definition) (text : String) : Bool :=
  match definition.mask with
  | some mask => mask.accepts text
  | none => true

namespace FilterValue

def textClauses (definition : Definition) (value : TextValue) : Clauses :=
  if value.text.isEmpty || !definition.admits value.text then []
  else if definition.regexCapable then
    [(definition.name.wire, .pattern ⟨value.regexMode, value.text⟩)]
  else [(definition.name.wire, .text value.text)]

def selectionClauses (definition : Definition) (selection : Selection) : Clauses :=
  if selection.isEmpty then []
  else [(definition.name.wire, .set (.ofSelection selection))]

def clauses (definition : Definition) : FilterValue → Clauses
  | .text value => textClauses definition value
  | .picker selection => selectionClauses definition selection
  | .range value =>
    [(definition.name.minKey, .bound value.min), (definition.name.maxKey, .bound value.max)]
  | .checkbox checked => if checked then [(definition.name.wire, .flag true)] else []
  | .userList selection => selectionClauses definition selection

end FilterValue

namespace Expression

def insertAll (entries : List (String × Clause)) (expression : Expression) : Expression :=
  entries.foldl (fun expression entry => expression.insert entry.1 entry.2) expression

/-- A value whose kind is not its definition's is passed over. -/
def append (expression : Expression) (pair : Definition × FilterValue) : Expression :=
  if pair.2.kind = pair.1.kind then expression.insertAll (pair.2.clauses pair.1) else expression

def build (pairs : List (Definition × FilterValue)) : Expression :=
  (pairs.foldl append empty).relocateTagPercentage

end Expression

end MediaFilter
