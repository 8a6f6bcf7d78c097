import MediaFilter.Environment
import MediaFilter.Error
import MediaFilter.Text.Blank

/-!
Where the backend is and how to speak to it.
-/

namespace MediaFilter

structure BackendConfig where
  baseUrl : String
  accessToken : Option String
  /-- The time in seconds after which a request is given up. -/
  timeout : Nat
  deriving DecidableEq, Repr

/-- What makes a configuration unusable. -/
inductive ConfigFault where
  | emptyUrl
  | foreignScheme (url : String)
  | zeroTimeout
  deriving DecidableEq, Repr

namespace BackendConfig

def defaultUrl : String := "http://127.0.0.1:8000"

def defaultTimeout : Nat := 30

def urlVariable : String := "ANITOOLS_API_URL"

def tokenVariable : String := "ANITOOLS_ACCESS_TOKEN"

def timeoutVariable : String := "ANITOOLS_TIMEOUT_SECS"

end BackendConfig

namespace ConfigFault

def message : ConfigFault → String
  | .emptyUrl => "Validation error: base_url cannot be empty"
  | .foreignScheme url =>
    "Validation error: base_url must start with http:// or https://, got: " ++ url
  | .zeroTimeout => "Invalid value for " ++ BackendConfig.timeoutVariable ++ ": 0"

def error (fault : ConfigFault) : Error := .configuration fault.message

end ConfigFault

namespace BackendConfig

def ofUrl (url : String) : BackendConfig := ⟨url, none, defaultTimeout⟩

def initial : BackendConfig := ofUrl defaultUrl

/-- A blank token counts as none, and a timeout that is no numeral as the usual one. -/
def ofEnvironment (environment : Environment) : BackendConfig :=
  { baseUrl := (environment.get? urlVariable).getD defaultUrl
    accessToken := (environment.get? tokenVariable).filter fun token =>
      !(Text.trim token.toList).isEmpty
    timeout :=
      ((environment.get? timeoutVariable).bind fun text => Text.readUInt64? text.toList).getD
        defaultTimeout }

def schemes : List String := ["http://", "https://"]

def validate (config : BackendConfig) : Except ConfigFault Unit :=
  if config.baseUrl.isEmpty then .error .emptyUrl
  else if !schemes.any fun scheme => scheme.toList.isPrefixOf config.baseUrl.toList then
    .error (.foreignScheme config.baseUrl)
  else if config.timeout = 0 then .error .zeroTimeout
  else .ok ()

/-- The base address without slashes at its end. -/
def trimmedUrl (config : BackendConfig) : String :=
  String.ofList (config.baseUrl.toList.reverse.dropWhile (· = '/')).reverse

def url (config : BackendConfig) (endpoint : String) : String := config.trimmedUrl ++ endpoint

end BackendConfig

end MediaFilter
