import MediaFilter.Backend.Call
import MediaFilter.Http.Status
import MediaFilter.Json.Reader
import MediaFilter.Text.Blank

/-!
The responses of the backend.  A failure is explained by what its body says in one of the known
forms, or else by the body itself, or else by its status.
-/

namespace MediaFilter.Http

structure Response where
  status : Nat
  body : String
  deriving DecidableEq, Repr

namespace Response

def received (response : Response) : String :=
  if hasNoBody response.status then "" else response.body

/-- A mark of the byte order in front of a text does not belong to it. -/
def withoutOrderMark (s : String) : String :=
  match s.toList with
  | c :: rest => if c.toNat = 0xFEFF then String.ofList rest else s
  | [] => s

def noticesIn? (fields : List (String × Json)) : Option String := do
  let found ← Json.namedFields? ["error"] .ignored fields
  let notices ← Json.required (Json.listOf Notice.ofJson?) (found.head?.join)
  some (String.intercalate "; " (notices.map Notice.message))

def textIn? (name : String) (fields : List (String × Json)) : Option String := do
  let found ← Json.namedFields? [name] .ignored fields
  Json.required Json.text? (found.head?.join)

/-- What a body says in one of the known forms. -/
def explanation? (body : String) : Option String := do
  match ← Json.read? body >>= Json.kept? with
  | .record fields =>
    noticesIn? fields <|> textIn? "message" fields <|> textIn? "detail" fields
  | _ => none

def failureMessage (status : Nat) (body : String) : String :=
  match explanation? body with
  | some message => message
  | none =>
    let body := Text.trimmed body
    if body.isEmpty then (reason? status).getD "Unknown error" else body

def decode (read : Json → Option α) (response : Response) : Except Error α :=
  if isSuccess response.status then readable (Json.read? response.received >>= read)
  else
    .error (.backend response.status
      (failureMessage response.status (withoutOrderMark response.received)))

end Response

inductive Payload where
  | choices (choices : Choices)
  | suggestions (entries : List WhitelistEntry)
  | userLists (reply : UserListReply)
  | page (page : Page)

def Payload.ofResponse (call : BackendCall) (response : Response) : Except Error Payload :=
  match call with
  | .choices _ => (response.decode Choices.ofJson?).map .choices
  | .suggestions _ _ => (response.decode WhitelistEntry.listOfJson?).map .suggestions
  | .userLists _ _ _ => (response.decode UserListReply.ofJson?).map .userLists
  | .page _ => (response.decode Page.ofJson?).map .page

end MediaFilter.Http
