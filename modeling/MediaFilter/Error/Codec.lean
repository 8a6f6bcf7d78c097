import MediaFilter.Error
import MediaFilter.Json.Fields

/-!
Errors as JSON: the kind of the cause, and the line that is shown.  Where the line depends on the
system that the program runs on, only the kind is given.
-/

namespace MediaFilter.Error

def kind : Error → String
  | .request _ => "Request"
  | .backend _ _ => "Backend"
  | .notFound _ => "NotFound"
  | .serialization _ => "Serialization"
  | .validation _ => "Validation"
  | .invalidInput _ => "InvalidInput"
  | .storage _ => "Storage"
  | .configuration _ => "Config"
  | .internal _ => "Internal"
  | .file _ => "Io"

def ofKind? (status : Nat) (detail : String) : String → Option Error
  | "Request" => some (.request detail)
  | "Backend" => some (.backend status detail)
  | "NotFound" => some (.notFound detail)
  | "Serialization" => some (.serialization detail)
  | "Validation" => some (.validation detail)
  | "InvalidInput" => some (.invalidInput detail)
  | "Storage" => some (.storage detail)
  | "Config" => some (.configuration detail)
  | "Internal" => some (.internal detail)
  | "Io" => some (.file detail)
  | _ => none

def dependsOnSystem : Error → Bool
  | .request _ => true
  | .serialization _ => true
  | .file _ => true
  | _ => false

def toJson (error : Error) : Json :=
  .record (("error", .text error.kind) ::
    if error.dependsOnSystem then [] else [("message", .text error.message)])

def ofJson? (value : Json) : Option Error :=
  match value.fields? ["kind", "message", "status"] .ignored with
  | some [kind, detail, status] => do
    let kind ← Json.required Json.text? kind
    let detail ← Json.defaulting "" Json.text? detail
    let status ← Json.optional Json.uint64? status
    ofKind? (status.getD 0) detail kind
  | _ => none

end MediaFilter.Error
