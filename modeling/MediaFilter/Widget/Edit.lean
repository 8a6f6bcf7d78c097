import MediaFilter.Bound
import MediaFilter.Error
import MediaFilter.FilterKind
import MediaFilter.FilterName
import MediaFilter.Notifier
import MediaFilter.Text.Quoted

/-!
The edits that a user makes, and why a widget may refuse one.
-/

namespace MediaFilter

inductive Edit where
  /-- Replace the text of a text box. -/
  | write (text : String)
  | toggleRegex
  | add (value : String)
  | remove (value : String)
  | toggleExcluded (value : String)
  | toggleCombinator
  | setMin (value : Bound)
  | setMax (value : Bound)
  /-- Release the slider at two ends, in either order. -/
  | slide (min max : Bound)
  | check (checked : Bool)
  deriving DecidableEq, Repr

namespace Edit

/-- What is typed waits for more; anything else counts at once. -/
def commit : Edit → Commit
  | .write _ => .debounced
  | .setMin _ => .debounced
  | .setMax _ => .debounced
  | _ => .immediate

def truthText (value : Bool) : String := if value then "true" else "false"

def describe : Edit → String
  | .write text => "Type(" ++ Text.quoted text ++ ")"
  | .toggleRegex => "ToggleRegex"
  | .add value => "Add(" ++ Text.quoted value ++ ")"
  | .remove value => "Remove(" ++ Text.quoted value ++ ")"
  | .toggleExcluded value => "ToggleExcluded(" ++ Text.quoted value ++ ")"
  | .toggleCombinator => "ToggleCombinator"
  | .setMin value => "SetMin(" ++ Text.intText value.val ++ ")"
  | .setMax value => "SetMax(" ++ Text.intText value.val ++ ")"
  | .slide min max =>
    "Slide \x7b min: " ++ Text.intText min.val ++ ", max: " ++ Text.intText max.val ++ " \x7d"
  | .check checked => "Check(" ++ truthText checked ++ ")"

end Edit

/-- What only some widgets can do. -/
inductive Ability where
  | regexMode
  | exclusion
  | combinatorSwitch
  deriving DecidableEq, Repr

def Ability.describe : Ability → String
  | .regexMode => "regex mode"
  | .exclusion => "exclusion"
  | .combinatorSwitch => "switching the combinator"

inductive Refusal where
  | inapplicable (edit : Edit) (kind : FilterKind) (name : FilterName)
  | unable (name : FilterName) (ability : Ability)
  | unlisted (value label : String)
  | excludesOnlyUnderAnd (label : String)
  | wrongKind (name : FilterName) (expected : FilterKind)
  deriving DecidableEq, Repr

def Refusal.error : Refusal → Error
  | .inapplicable edit kind name =>
    .invalidInput (edit.describe ++ " does not apply to the " ++ kind.title ++ " widget " ++
      name.wire)
  | .unable name ability =>
    .invalidInput (name.wire ++ " does not support " ++ ability.describe)
  | .unlisted value label => .validation (value ++ " is not a valid " ++ label)
  | .excludesOnlyUnderAnd label =>
    .invalidInput (label ++ " can only exclude while combined with AND")
  | .wrongKind name expected =>
    .invalidInput (name.wire ++ " expects a " ++ expected.title ++ " value")

structure Change where
  filter : FilterName
  commit : Commit
  deriving DecidableEq, Repr

end MediaFilter
