import MediaFilter.Text.Numeral

/-!
What can go wrong, by cause, and the line that is shown for it.
-/

namespace MediaFilter

inductive Error where
  | request (detail : String)
  | backend (status : Nat) (detail : String)
  | notFound (detail : String)
  | serialization (detail : String)
  | validation (detail : String)
  | invalidInput (detail : String)
  | storage (detail : String)
  | configuration (detail : String)
  | internal (detail : String)
  | file (detail : String)
  deriving DecidableEq, Repr

namespace Error

def message : Error → String
  | .request detail => "Request error: " ++ detail
  | .backend status detail => "Backend error (" ++ Text.natText status ++ "): " ++ detail
  | .notFound detail => "Not found: " ++ detail
  | .serialization detail => "Serialization error: " ++ detail
  | .validation detail => "Validation error: " ++ detail
  | .invalidInput detail => "Invalid input: " ++ detail
  | .storage detail => "Storage error: " ++ detail
  | .configuration detail => "Configuration error: " ++ detail
  | .internal detail => "Internal error: " ++ detail
  | .file detail => "I/O error: " ++ detail

def unreadable : Error := .serialization "the text does not spell such a value"

def noEntity : Error := .invalidInput "no entity type selected"

end Error

def readable (found : Option α) : Except Error α :=
  match found with
  | some value => .ok value
  | none => .error .unreadable

end MediaFilter
