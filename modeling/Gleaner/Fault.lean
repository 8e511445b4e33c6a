import Gleaner.Decimal.Number
import Gleaner.Text.Blank
import Gleaner.Schema.Problem
import Gleaner.Text.Literal
import Gleaner.Text.Pattern.Reader
import Gleaner.Url.Host

/-!
# Faults

What can go wrong, as causes. The kinds of the library's own faults form a tree, so that a
retry can name a whole branch of it; faults of collaborators that are outside the tree carry
their name and text. `Fault.message` is the bare message, `Fault.text` adds the details.
-/

set_option autoImplicit false

namespace Gleaner

/-- The kinds of the library's own faults. -/
inductive FaultKind where
  | any
  | configuration
  | browser
  | browserLaunch
  | page
  | navigation
  | elementNotFound
  | waitTimeout
  | model
  | modelConnection
  | modelAuthentication
  | rateLimit
  | invalidResponse
  | recipe
  | recipeValidation
  | command
  | bindingMissing
  | unknownCommand
  | binding
  | bindingValidation
  | bindingDiscovery
  | staleBindings
  deriving DecidableEq, Repr

namespace FaultKind

def name : FaultKind → String
  | .any => "RecipeAgentError"
  | .configuration => "ConfigurationError"
  | .browser => "BrowserError"
  | .browserLaunch => "BrowserLaunchError"
  | .page => "PageError"
  | .navigation => "NavigationError"
  | .elementNotFound => "ElementNotFoundError"
  | .waitTimeout => "WaitTimeoutError"
  | .model => "LLMError"
  | .modelConnection => "LLMConnectionError"
  | .modelAuthentication => "LLMAuthenticationError"
  | .rateLimit => "RateLimitError"
  | .invalidResponse => "InvalidResponseError"
  | .recipe => "RecipeError"
  | .recipeValidation => "RecipeValidationError"
  | .command => "CommandError"
  | .bindingMissing => "BindingMissingError"
  | .unknownCommand => "UnknownCommandError"
  | .binding => "BindingError"
  | .bindingValidation => "BindingValidationError"
  | .bindingDiscovery => "BindingDiscoveryError"
  | .staleBindings => "StaleBindingsError"

/-- The kinds above a kind, nearest first. -/
def ancestors : FaultKind → List FaultKind
  | .any => []
  | .configuration | .browser | .model | .recipe | .binding => [.any]
  | .browserLaunch | .page => [.browser, .any]
  | .navigation | .elementNotFound | .waitTimeout => [.page, .browser, .any]
  | .modelConnection | .modelAuthentication | .rateLimit | .invalidResponse => [.model, .any]
  | .recipeValidation | .command => [.recipe, .any]
  | .bindingMissing | .unknownCommand => [.command, .recipe, .any]
  | .bindingValidation | .bindingDiscovery | .staleBindings => [.binding, .any]

/-- Whether a kind is another one or below it. -/
def within (kind above : FaultKind) : Bool :=
  kind = above || kind.ancestors.contains above

def plain : List FaultKind :=
  [.any, .configuration, .browser, .browserLaunch, .page, .model, .modelConnection,
    .modelAuthentication, .recipe, .recipeValidation, .binding, .bindingDiscovery]

def all : List FaultKind :=
  plain ++ [.navigation, .elementNotFound, .waitTimeout, .rateLimit, .invalidResponse, .command,
    .bindingMissing, .unknownCommand, .bindingValidation, .staleBindings]

def ofName? (name : String) : Option FaultKind :=
  all.find? (·.name = name)

end FaultKind

/-- A number that cannot be used where it stands. -/
inductive NumberFault where
  | quotientTooLarge
  | integerTooLarge
  | infinite
  | notANumber
  deriving DecidableEq, Repr

namespace NumberFault

def name : NumberFault → String
  | .notANumber => "ValueError"
  | _ => "OverflowError"

def message : NumberFault → String
  | .quotientTooLarge => "integer division result too large for a float"
  | .integerTooLarge => "int too large to convert to float"
  | .infinite => "cannot convert float infinity to integer"
  | .notANumber => "cannot convert float NaN to integer"

end NumberFault

inductive Fault where
  | plain (kind : FaultKind) (message : String) (details : Fields)
  | navigation (message : String) (url : Option String)
  | elementNotFound (message selector : String)
  | waitTimeout (message : String) (timeoutMs : Int) (condition : Option String)
  | rateLimit (message : String) (retryAfter : Option Number)
  | invalidResponse (message : String) (raw : Option String)
  | command (message : String) (command : Option String)
  | bindingMissing (message binding : String) (command : Option String)
  | unknownCommand (type : String)
  | bindingValidation (message : String) (errors : List String)
  | staleBindings (id : String) (expected actual : Int)
  /-- A value that does not have the form of a record. -/
  | malformed (form : String) (problems : Problems)
  | badPattern (error : Text.PatternError)
  | badUrl (fault : Url.UrlFault)
  | number (fault : NumberFault)
  /-- A fault of a collaborator, known by name and text. -/
  | foreign (name text : String)

namespace Fault

def kind? : Fault → Option FaultKind
  | .plain kind _ _ => some kind
  | .navigation _ _ => some .navigation
  | .elementNotFound _ _ => some .elementNotFound
  | .waitTimeout _ _ _ => some .waitTimeout
  | .rateLimit _ _ => some .rateLimit
  | .invalidResponse _ _ => some .invalidResponse
  | .command _ _ => some .command
  | .bindingMissing _ _ _ => some .bindingMissing
  | .unknownCommand _ => some .unknownCommand
  | .bindingValidation _ _ => some .bindingValidation
  | .staleBindings _ _ _ => some .staleBindings
  | _ => none

/-- Whether a fault is of a kind or of one below it. -/
def isA (fault : Fault) (kind : FaultKind) : Bool :=
  fault.kind?.any (·.within kind)

def problemCount (problems : Problems) (form : String) : String :=
  let count := problems.toList.length
  s!"{count} validation error" ++ (if count = 1 then "" else "s") ++ " for " ++ form

def message : Fault → String
  | .plain _ message _ => message
  | .navigation message _ => message
  | .elementNotFound message _ => message
  | .waitTimeout message _ _ => message
  | .rateLimit message _ => message
  | .invalidResponse message _ => message
  | .command message _ => message
  | .bindingMissing message _ _ => message
  | .unknownCommand type => "Unknown command type: " ++ type
  | .bindingValidation message _ => message
  | .staleBindings id expected actual =>
      "Bindings " ++ id ++ s!" changed concurrently (expected version {expected}, found {actual})"
  | .malformed form problems => problemCount problems form
  | .badPattern error => error.message
  | .badUrl fault => fault.message
  | .number fault => fault.message
  | .foreign _ text => text

def numberJson : Option Number → Json
  | none => .null
  | some (.int n) => .int n
  | some (.float x) => .float x

def details : Fault → Fields
  | .plain _ _ details => details
  | .navigation _ (some url) => if url = "" then [] else [("url", .str url)]
  | .rateLimit _ retryAfter => [("retry_after", numberJson retryAfter)]
  | .invalidResponse _ raw =>
      [("raw_response",
        match raw with
        | some text => if text = "" then .null else .str (Text.take 500 text)
        | none => .null)]
  | .bindingValidation _ errors =>
      if errors.isEmpty then [] else [("errors", .ofStrings errors)]
  | .staleBindings id expected actual =>
      [("binding_id", .str id), ("expected", .int expected), ("actual", .int actual)]
  | _ => []

def text (fault : Fault) : String :=
  match fault.details with
  | [] => fault.message
  | details => fault.message ++ " - Details: " ++ (Json.obj details).literal

def name : Fault → String
  | .malformed _ _ => "ValidationError"
  | .badPattern _ => "error"
  | .badUrl _ => "ValueError"
  | .number fault => fault.name
  | .foreign name _ => name
  | fault => (fault.kind?.getD .any).name

/-- The text, or the name of the kind when there is no text. -/
def brief (fault : Fault) : String :=
  if fault.text = "" then fault.name else fault.text

/-- The seconds after which another try makes sense, as the fault itself says. -/
def retryAfter? : Fault → Option Number
  | .rateLimit _ retryAfter => retryAfter
  | _ => none

end Fault

end Gleaner
