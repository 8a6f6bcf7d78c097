import MediaFilter.Json.Fields

/-!
How the values selected in one filter combine: all of them must hold, or one of them.
-/

namespace MediaFilter

inductive Combinator where
  | and
  | or
  deriving DecidableEq, Repr, Inhabited

namespace Combinator

def key : Combinator → String
  | .and => "and"
  | .or => "or"

def wire : Combinator → String
  | .and => "AND"
  | .or => "OR"

def toggled : Combinator → Combinator
  | .and => .or
  | .or => .and

def ofWire? (text : String) : Option Combinator :=
  if text = "AND" then some .and else if text = "OR" then some .or else none

def toJson (combinator : Combinator) : Json := .text combinator.wire

def ofJson? (value : Json) : Option Combinator := value.alternative? >>= ofWire?

@[simp] theorem toggled_toggled (combinator : Combinator) :
    combinator.toggled.toggled = combinator := by
  cases combinator <;> rfl

end Combinator

end MediaFilter
