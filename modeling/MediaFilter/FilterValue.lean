import MediaFilter.Definition
import MediaFilter.Selection

/-!
The value that a widget holds, of the widget's kind.
-/

namespace MediaFilter

structure TextValue where
  text : String
  regexMode : Bool
  deriving DecidableEq, Repr

inductive FilterValue where
  | text (value : TextValue)
  | picker (selection : Selection)
  | range (value : RangeValue)
  | checkbox (checked : Bool)
  | userList (selection : Selection)
  deriving DecidableEq, Repr

namespace FilterValue

def kind : FilterValue → FilterKind
  | .text _ => .text
  | .picker _ => .picker
  | .range _ => .range
  | .checkbox _ => .checkbox
  | .userList _ => .userList

/-- Whether a value selects nothing.  A range always selects something. -/
def isEmpty : FilterValue → Bool
  | .text value => value.text.isEmpty
  | .picker selection => selection.isEmpty
  | .range _ => false
  | .checkbox checked => !checked
  | .userList selection => selection.isEmpty

/-- The value of a widget that nobody has touched. -/
def neutral (definition : Definition) : FilterValue :=
  match definition.kind with
  | .text => .text ⟨"", false⟩
  | .picker => .picker (.empty definition.combinator)
  | .range => .range (.full definition.initialDomain)
  | .checkbox => .checkbox false
  | .userList => .userList (.empty definition.combinator)

@[simp] theorem kind_neutral (definition : Definition) :
    (neutral definition).kind = definition.kind := by
  unfold neutral
  split <;> simp [kind, *]

end FilterValue

end MediaFilter
