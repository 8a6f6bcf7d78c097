import MediaFilter.Backend.Call
import MediaFilter.Backend.Config
import MediaFilter.Http.Address

/-!
The calls of the backend as requests of HTTP.
-/

namespace MediaFilter.Http

inductive Method where
  | get
  | post
  deriving DecidableEq, Repr

def Method.wire : Method → String
  | .get => "GET"
  | .post => "POST"

structure Request where
  method : Method
  address : Address
  authorization : Option String
  contentType : Option String
  body : String
  deriving DecidableEq, Repr

structure Endpoint where
  path : String
  fields : List (String × String)

def endpoint : BackendCall → Endpoint
  | .choices entity => ⟨"/filterValues", [("media_type", entity.wire)]⟩
  | .suggestions source query => ⟨source.path, [("q", query)]⟩
  | .userLists userName entity forced =>
    ⟨"/userLists", [("user_name", userName), ("media_type", entity.wire)] ++
      if forced then [("force_reload", "true")] else []⟩
  | .page _ => ⟨"/", []⟩

/-- The text that is posted; all but a search is asked for without one. -/
def posted? : BackendCall → Option String
  | .page request => some request.print
  | _ => none

/-- Control characters have no place in a header. -/
def isHeaderChar (c : Char) : Bool := c = '\t' || (0x20 ≤ c.toNat && c.toNat ≠ 0x7F)

def authorization (token : String) : String := Text.trimmed ("Bearer " ++ token)

def noAddress : Error := .request "the address is not that of a server"

def badToken : Error := .request "the access token cannot be sent"

/-- Fields are put into the query only where there are some. -/
def address? (config : BackendConfig) (endpoint : Endpoint) : Option Address :=
  (Address.ofChars? (config.url endpoint.path).toList).map fun address =>
    if endpoint.fields.isEmpty then address else address.withFields endpoint.fields

def request (config : BackendConfig) (call : BackendCall) : Except Error Request :=
  match address? config (endpoint call) with
  | none => .error noAddress
  | some address =>
    if config.accessToken.all fun token => token.toList.all isHeaderChar then
      let body := posted? call
      .ok
        { method := if body.isSome then .post else .get
          address
          authorization := config.accessToken.map authorization
          contentType := body.map fun _ => "application/json"
          body := body.getD "" }
    else .error badToken

end MediaFilter.Http
