import MediaFilter.Error.Codec
import MediaFilter.Json.Reader
import MediaFilter.Simulation.Script

/-!
Scripts as JSON.  A reply is given as the text that the backend sends, or as the error of a call
that fails.
-/

namespace MediaFilter

namespace Scripted

def ofFields? (read : Json → Option α) (delay body failure : Option Json) :
    Option (Scripted α) := do
  let delay ← Json.optional Json.uint64? delay
  let body ← Json.optional Json.text? body
  let failure ← Json.optional Error.ofJson? failure
  let reply :=
    match failure with
    | some error => .error error
    | none => readable (Json.read? (body.getD "") >>= read)
  some ⟨delay.getD 0, reply⟩

def ofJson? (read : Json → Option α) (value : Json) : Option (Scripted α) :=
  match value.fields? ["delay", "text", "error"] .ignored with
  | some [delay, body, failure] => ofFields? read delay body failure
  | _ => none

end Scripted

namespace Script

def lookups? : List (String × Json) → Option (List (String × Scripted (List WhitelistEntry)))
  | [] => some []
  | field :: fields =>
    match Scripted.ofJson? WhitelistEntry.listOfJson? field.2, lookups? fields with
    | some scripted, some more => some ((field.1, scripted) :: more)
    | _, _ => none

def lookupsOf? : Json → Option (List (String × Scripted (List WhitelistEntry)))
  | .record fields => lookups? fields
  | _ => none

def replies? (read : Json → Option α) (field : Option Json) : Option (List (Scripted α)) :=
  Json.defaulting [] (Json.listOf (Scripted.ofJson? read)) field

def ofJson? (value : Json) : Option Script :=
  match value.fields? ["filter_values", "user_lists", "search", "suggest"] .ignored with
  | some [choices, userLists, pages, suggestions] => do
    let choices ← replies? Choices.ofJson? choices
    let userLists ← replies? UserListReply.ofJson? userLists
    let pages ← replies? Page.ofJson? pages
    let suggestions ← Json.defaulting [] lookupsOf? suggestions
    some { choices, userLists, pages, suggestions }
  | _ => none

end Script

end MediaFilter
