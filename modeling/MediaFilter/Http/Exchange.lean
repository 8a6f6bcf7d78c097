import MediaFilter.Http.Request
import MediaFilter.Http.Response

/-!
One call of the backend over HTTP.
-/

namespace MediaFilter.Http

/-- A server that answers everything the same way. -/
structure Server where
  authority : String
  response : Response

structure Exchange where
  request : Option Request
  result : Except Error Payload
  /-- How many seconds a reply is waited for, if the configuration can be used at all. -/
  timeout : Option Nat

def noServer : Error := .request "no server answers at the address"

/-- Makes a call.  Nothing is sent unless the configuration is sound and a server is there. -/
def exchange (config : BackendConfig) (server : Option Server) (call : BackendCall) : Exchange :=
  match config.validate with
  | .error fault => ⟨none, .error fault.error, none⟩
  | .ok () =>
    match request config call, server with
    | .error error, _ => ⟨none, .error error, some config.timeout⟩
    | .ok _, none => ⟨none, .error noServer, some config.timeout⟩
    | .ok request, some server =>
      if request.address.authority = server.authority then
        ⟨some request, Payload.ofResponse call server.response, some config.timeout⟩
      else ⟨none, .error noServer, some config.timeout⟩

end MediaFilter.Http
