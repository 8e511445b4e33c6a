import Gleaner.Cli.Perform
import Gleaner.Provider.Basic

/-!
# Terminals

A desk over what was found when a process began. It has no network and no browser: a run ends
with the fault that says so. Every other command works on the files alone.
-/

set_option autoImplicit false

namespace Gleaner.Cli

/-- What a process found, with what it changed. -/
structure Terminal where
  /-- Seconds since the epoch. -/
  time : Float
  home : String
  environment : Environment
  files : Files
  /-- The lines on the console, the last one first. -/
  printed : List String := []

namespace Terminal

def pause (span : Span) : Action Terminal Unit := do
  let seconds ← liftM span.toSeconds
  modify fun terminal => { terminal with time := terminal.time + seconds }

def deadline (timeoutMs : Nat) (terminal : Terminal) : Except Fault (Deadline Terminal) := do
  let seconds ← (Span.ofMs timeoutMs).toSeconds
  let limit := terminal.time + seconds
  return fun later => limit ≤ later.time

def transport : Transport Terminal :=
  { send := fun _ => return .error (.unreachable "no network") }

def browser : Browser Terminal :=
  let absent : Fault :=
    .plain .browserLaunch "Failed to launch browser: there is no browser engine" []
  { launch := throw absent
    openPage := throw absent
    close := return () }

def desk (home : String) : Desk Terminal :=
  { clock := { time := Terminal.time, deadline, pause }
    home
    environment := Terminal.environment
    setEnvironment := fun environment terminal => { terminal with environment }
    files := Terminal.files
    setFiles := fun files terminal => { terminal with files }
    print := fun line =>
      modify fun terminal => { terminal with printed := line :: terminal.printed }
    model := fun settings name terminal =>
      (.ok (Provider.ofSettings terminal.environment transport settings name).toModel, terminal)
    browser := fun _ => return browser }

def serve (args : List String) (terminal : Terminal) : Ending × Terminal :=
  Cli.serve (desk terminal.home) args terminal

/-! ## What a process has to look for -/

/-- The files that are named by the arguments, and those at the usual places. -/
def paths (args : List String) : List String :=
  let named := match Invocation.parse args with
    | .ok (.run request) => request.recipePath.toList ++ request.config.toList
    | .ok (.validateRecipe path) | .ok (.validateBindings path) => [path]
    | _ => []
  (named ++ SettingsSource.usualPaths ++ SettingsSource.usualEnvironmentFiles).map normalPath

/-- The file of stored bindings: the one that the arguments name, or that of the settings. -/
def storePath? (args : List String) (terminal : Terminal) : Option String :=
  let configured (path : Option String) : Option String :=
    match Settings.load terminal.files terminal.environment { path } with
    | .ok (settings, _) => some settings.bindings.storePath
    | .error _ => none
  let found := match Invocation.parse args with
    | .ok (.run request) => configured request.config
    | .ok (.listBindings store) | .ok (.clearBindings _ store) =>
        store.orElse fun _ => configured none
    | _ => none
  found.map fun path => normalPath (expandHome terminal.home path)

def outputFolder? (args : List String) : Option String :=
  match Invocation.parse args with
  | .ok (.run request) => request.output.map Files.folder
  | _ => none

def changed (before after : Files) : Files :=
  after.filter fun (path, text) => Entries.find? path before ≠ some text

/-- The variables in a block of them, which a character of code zero ends each of. -/
def variablesIn (block : String) : Environment :=
  Entries.ofPairs ((block.splitOn "\x00").filterMap fun entry =>
    match entry.splitOn "=" with
    | name :: rest@(_ :: _) => some (name, "=".intercalate rest)
    | _ => none)

end Terminal

end Gleaner.Cli
