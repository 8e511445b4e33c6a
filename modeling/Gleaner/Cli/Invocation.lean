import Gleaner.Cli.Arguments
import Gleaner.Schema.Numeral

/-!
# Invocations

What a command line asks for. An option that is empty, or a limit of zero, asks for nothing.
-/

set_option autoImplicit false

namespace Gleaner.Cli

structure RunRequest where
  url : String
  /-- Without a recipe jobs are collected. -/
  recipePath : Option String := none
  maxItems : Option Int := none
  visible : Bool := false
  model : Option String := none
  apiUrl : Option String := none
  output : Option String := none
  /-- Stored bindings are not used. -/
  rediscover : Bool := false
  extractJobs : Bool := false
  config : Option String := none
  logLevel : String := "INFO"
  deriving Repr

inductive Invocation where
  | run (request : RunRequest)
  | validateRecipe (path : String)
  | validateBindings (path : String)
  | listBindings (store : Option String)
  | clearBindings (url store : Option String)
  | version
  deriving Repr

namespace Invocation

def runSpec : CommandSpec :=
  { arguments := 1
    options :=
      [{ name := "--recipe", short := some 'r' }, { name := "--max-items", short := some 'n' },
        { name := "--visible", short := some 'v', takesValue := false },
        { name := "--model", short := some 'm' }, { name := "--api-url" },
        { name := "--output", short := some 'o' },
        { name := "--rediscover", takesValue := false },
        { name := "--extract-jobs", takesValue := false },
        { name := "--config", short := some 'c' }, { name := "--log-level" }] }

/-- A whole number, which may have blanks around it. -/
def integer? (text : String) : Option Int :=
  if text.contains '.' then none else Numeral.int? text

def run? (parsed : Parsed) : Except Halt RunRequest := do
  let maxItems ← match (Entries.find? "--max-items" parsed.options).bind id with
    | some text =>
        match integer? text with
        | some n => pure (some n)
        | none => throw .misused
    | none => pure none
  return {
    url := parsed.arguments.headD ""
    recipePath := parsed.value? "--recipe"
    maxItems := maxItems.filter (· ≠ 0)
    visible := parsed.has "--visible"
    model := parsed.value? "--model"
    apiUrl := parsed.value? "--api-url"
    output := parsed.value? "--output"
    rediscover := parsed.has "--rediscover"
    extractJobs := parsed.has "--extract-jobs"
    config := parsed.value? "--config"
    logLevel := ((Entries.find? "--log-level" parsed.options).bind id).getD "INFO" }

def file? (args : List String) : Except Halt String := do
  let parsed ← CommandSpec.parse { arguments := 1 } args
  return parsed.arguments.headD ""

def bindings? (args : List String) : Except Halt Invocation := do
  match ← commandIn args with
  | ("list", args) =>
      let parsed ← CommandSpec.parse { options := [{ name := "--store" }] } args
      return .listBindings (parsed.value? "--store")
  | ("clear", args) =>
      let spec : CommandSpec := { options := [{ name := "--url" }, { name := "--store" }] }
      let parsed ← spec.parse args
      return .clearBindings (parsed.value? "--url") (parsed.value? "--store")
  | _ => throw .misused

def parse (args : List String) : Except Halt Invocation := do
  match ← commandIn args with
  | ("run", args) => return .run (← run? (← runSpec.parse args))
  | ("validate-recipe", args) => return .validateRecipe (← file? args)
  | ("validate-bindings", args) => return .validateBindings (← file? args)
  | ("bindings", args) => bindings? args
  | ("version", args) =>
      let _ ← CommandSpec.parse {} args
      return .version
  | _ => throw .misused

end Invocation

end Gleaner.Cli
