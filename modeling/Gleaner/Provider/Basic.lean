import Gleaner.Provider.Body
import Gleaner.Provider.Http
import Gleaner.Settings.Environment
import Gleaner.Text.Digit

/-!
# Providers

A model behind a host that speaks the chat-completions protocol. Whatever goes wrong on the
way becomes a fault that says whether another try makes sense.
-/

set_option autoImplicit false

namespace Gleaner

structure Provider (σ : Type) where
  /-- Without the version part of the path and without slashes at the end. -/
  baseUrl : String
  apiKey : String
  model : String
  transport : Transport σ

namespace Provider

/-- A base URL without slashes at its end and without the version part. -/
def trimBase (url : String) : String :=
  let base := Text.dropEnd (· = '/') url
  if base.endsWith "/v1" then (base.dropEnd 3).toString else base

/-- The variable that holds a key, and what is sent without one. -/
def keyVariable : String := "OPENAI_API_KEY"

def noKey : String := "not-needed"

variable {σ : Type}

/-- A provider; without a key that of the environment is used. -/
def create (env : Environment) (transport : Transport σ) (baseUrl model : String)
    (apiKey : Option String) : Provider σ :=
  { baseUrl := trimBase baseUrl
    apiKey := match apiKey.getD "" with
      | "" => (Entries.find? keyVariable env).getD noKey
      | key => key
    model
    transport }

/-- The provider of some settings, for another model than theirs if one is named. -/
def ofSettings (env : Environment) (transport : Transport σ) (settings : ModelSettings)
    (model : Option String) : Provider σ :=
  let name := match model.getD "" with
    | "" => settings.model
    | name => name
  create env transport settings.baseUrl name (settings.apiKey.map Secret.text)

variable (provider : Provider σ)

/-- The part of a URL that does not heed case, in lower case and without the usual port. -/
def canonicalUrl (url : String) : String :=
  match url.splitOn "://" with
  | scheme :: rest@(_ :: _) =>
      let scheme := scheme.toLower
      let rest := "://".intercalate rest
      let authority := (rest.toList.takeWhile fun c => !("/?#".contains c)).length
      let host := (rest.take authority).toString.toLower
      let usual := if scheme = "https" then ":443" else ":80"
      let host := if host.endsWith usual then (host.dropEnd usual.length).toString else host
      scheme ++ "://" ++ host ++ (rest.drop authority).toString
  | _ => url

def urlOf (path : String) : String :=
  let base := provider.baseUrl
  canonicalUrl (base ++ (if base.endsWith "/" then "" else "/") ++ path)

def request (method : HttpMethod) (path : String) (body : Option Json) : HttpRequest :=
  { method
    url := provider.urlOf path
    authorization := "Bearer " ++ provider.apiKey
    contentType := "application/json"
    body }

/-- The model that is asked: the usual one unless another is named. -/
def modelFor (completion : Completion) : String :=
  match completion.model.getD "" with
  | "" => provider.model
  | name => name

/-- The body that asks for a completion; further fields win. -/
def requestBody (completion : Completion) : Fields :=
  let message (m : Message) : Json :=
    .obj [("role", .str m.role.name), ("content", .str m.content)]
  let temperature : Json := match completion.temperature with
    | .int n => .int n
    | .float x => .float x
  let limit := match completion.maxTokens with
    | some (n + 1) => [("max_tokens", Json.int (n + 1))]
    | _ => []
  Entries.overlay
    ([("model", .str (provider.modelFor completion)),
      ("messages", .arr (completion.messages.map message)),
      ("temperature", temperature)] ++ limit)
    completion.extra

def maxRefusalChars : Nat := 300

/-- An integer with more digits than this is not read. -/
def maxDigits : Nat := 4300

/-- The integer that a text of decimal digits spells. -/
def integerOf (text : String) : Except Fault Int :=
  if !text.toList.all Text.isDigit then
    .error (.foreign "ValueError"
      ("invalid literal for int() with base 10: " ++ Text.take 200 (Text.quoted text)))
  else if maxDigits < text.length then
    .error (.foreign "ValueError" (s!"Exceeds the limit ({maxDigits} digits) for integer " ++
      s!"string conversion: value has {text.length} digits; " ++
      "use sys.set_int_max_str_digits() to increase the limit"))
  else .ok (text.toList.foldl (fun n c => n * 10 + (Text.digitValue? c).getD 0) 0 : Nat)

/-- The seconds to wait that a host names. What is no text of digits names none; what is one is
taken for an integer, which it need not be. -/
def waitOf (response : HttpResponse) : Except Fault (Option Number) :=
  match response.header? "retry-after" with
  | none => .ok none
  | some text =>
      if text ≠ "" && text.toList.all Text.isDigitSign then
        (integerOf text).map fun seconds => some (.int seconds)
      else .ok none

def refusal (response : HttpResponse) : Fault :=
  let status := response.status
  let text := Text.take maxRefusalChars response.body
  if status = 401 || status = 403 then
    .plain .modelAuthentication s!"Authentication failed ({status})" []
  else if status = 429 then
    match waitOf response with
    | .ok seconds => .rateLimit "Rate limit exceeded" seconds
    | .error fault => fault
  else if 500 ≤ status then
    .plain .modelConnection (s!"Provider error {status}: " ++ text) []
  else
    .plain .model (s!"Request rejected ({status}): " ++ text) [("status_code", .int status)]

/-- Sends a request; what fails below HTTP is a matter of the connection. -/
def exchange (request : HttpRequest) : Action σ HttpResponse := do
  match ← (provider.transport.send request : StateM σ _) with
  | .ok response => return response
  | .error (.unreachable message) =>
      throw (.plain .modelConnection ("Cannot reach " ++ provider.baseUrl ++ ": " ++ message) [])
  | .error (.broken name message) => throw (.foreign name message)
  | .error (.other fault) => throw fault

def complete (completion : Completion) : Action σ RawReply := do
  let body := Json.obj (provider.requestBody completion)
  let response ← provider.exchange (provider.request .post "v1/chat/completions" (some body))
  if response.succeeded then
    match RawReply.read (provider.modelFor completion) response.body with
    | .ok raw => return raw
    | .error fault => throw fault
  else throw (refusal response)

def healthy : Action σ Bool := do
  match ← (provider.transport.send (provider.request .get "v1/models" none) : StateM σ _) with
  | .ok response => return response.status = 200
  | .error (.unreachable _) | .error (.broken _ _) => return false
  | .error (.other fault) => throw fault

def toModel : Model σ :=
  { name := "openai"
    defaultModel := provider.model
    complete := fun completion => do
      match (← provider.complete completion).reply with
      | .ok reply => return reply
      | .error fault => throw fault
    healthy := provider.healthy }

end Provider

end Gleaner
