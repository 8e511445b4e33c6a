/-!
# Settings

Everything that can be tuned, in sections: the model, the browser, a run, the bindings, the
log. The defaults are those of a fresh installation.
-/

set_option autoImplicit false

namespace Gleaner

structure Secret where
  text : String
  deriving DecidableEq

namespace Secret

def shown (secret : Secret) : String :=
  if secret.text = "" then "" else "**********"

end Secret

structure ModelSettings where
  model : String := "gpt-4o-mini"
  apiKey : Option Secret := none
  /-- Without the version part of the path. -/
  baseUrl : String := "https://api.openai.com"
  temperature : Float := 0
  maxTokens : Nat := 4096
  /-- Seconds. -/
  timeout : Nat := 120
  retryAttempts : Nat := 3
  /-- A cheaper model for structuring items. -/
  extractorModel : Option String := none

inductive BrowserKind where
  | chromium
  | firefox
  | webkit
  deriving DecidableEq, Repr

structure BrowserSettings where
  headless : Bool := true
  kind : BrowserKind := .chromium
  timeoutMs : Nat := 30000
  viewportWidth : Nat := 1280
  viewportHeight : Nat := 720
  userAgent : Option String := none

structure RunSettings where
  /-- The time between two looks at a condition that is waited for. -/
  pollIntervalMs : Nat := 300
  waitTimeoutMs : Nat := 10000
  loadingTimeoutMs : Nat := 10000
  /-- The pause that stands for a wait where details are shown in place. -/
  inlineDetailsWaitMs : Nat := 100
  detailsSettleMs : Nat := 300
  extractRetries : Nat := 3
  extractRetryDelayMs : Nat := 500
  maxRepeatIterations : Nat := 50
  /-- So many passes without news count as the end of the list. -/
  noNewItemsLimit : Nat := 3
  pageEndThresholdPx : Nat := 50
  progressEvery : Nat := 5

structure BindingSettings where
  storePath : String := "~/.recipe-agent/bindings.json"
  maxAgeHours : Float := 24
  /-- A shorter snapshot means that the page is not ready. -/
  minSnapshotChars : Nat := 50
  maxSnapshotChars : Nat := 30000
  maxRepairContextChars : Nat := 5000

inductive LogLevel where
  | debug
  | info
  | warning
  | error
  | critical
  deriving DecidableEq, Repr

structure LogSettings where
  level : LogLevel := .info
  file : Option String := none
  jsonFormat : Bool := false

structure Settings where
  llm : ModelSettings := {}
  browser : BrowserSettings := {}
  executor : RunSettings := {}
  bindings : BindingSettings := {}
  logging : LogSettings := {}
  debug : Bool := false

namespace BrowserKind

def names : List (String × BrowserKind) :=
  [("chromium", .chromium), ("firefox", .firefox), ("webkit", .webkit)]

def name : BrowserKind → String
  | .chromium => "chromium"
  | .firefox => "firefox"
  | .webkit => "webkit"

end BrowserKind

namespace LogLevel

def names : List (String × LogLevel) :=
  [("DEBUG", .debug), ("INFO", .info), ("WARNING", .warning), ("ERROR", .error),
    ("CRITICAL", .critical)]

def name : LogLevel → String
  | .debug => "DEBUG"
  | .info => "INFO"
  | .warning => "WARNING"
  | .error => "ERROR"
  | .critical => "CRITICAL"

end LogLevel

end Gleaner
