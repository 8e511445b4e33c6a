import Gleaner.Bindings.Merge
import Gleaner.Page
import Gleaner.Run.Basic
import Gleaner.Run.Outcome
import Gleaner.Settings.Basic

/-!
# Sessions

A session drives one page: it holds the bindings in force, the state of the run, and the
world that the page and the clock work on. `Host` is what the session is given and does not
change; a `Step` is one command that always has an outcome, an `Interp` may still fail.
-/

set_option autoImplicit false

namespace Gleaner

/-- What a repairer is told about a failed command. -/
structure RepairRequest where
  command : Command
  /-- The key of the binding that the command depends on. -/
  binding : String
  current : Option Json
  error : String
  /-- The elements of the page when the command failed. -/
  dom : String

abbrev Repairer (σ : Type) := RepairRequest → Action σ (Option Fields)

structure Host (σ : Type) where
  page : Page σ
  clock : Clock σ
  settings : RunSettings := {}
  repairer : Option (Repairer σ) := none

structure Session (σ : Type) where
  run : Run
  bindings : PageBindings
  maxItems : Option Nat := none
  deadline : Option (Deadline σ) := none
  /-- The run was stopped by its deadline. -/
  timedOut : Bool := false
  world : σ

abbrev Interp (σ : Type) := ExceptT Fault (StateM (Session σ))

abbrev Step (σ : Type) := StateM (Session σ) Outcome

namespace Session

variable {σ : Type}

def start (clock : Clock σ) (bindings : PageBindings) (world : σ) : Session σ :=
  { run := { startedAt := clock.time world }, bindings, world }

def checkTime (session : Session σ) : Session σ :=
  match session.deadline with
  | some reached =>
      if !session.run.stopped && reached session.world then
        { session with run := { session.run with stopped := true }, timedOut := true }
      else session
  | none => session

end Session

namespace Interp

variable {σ α : Type}

def act (action : Action σ α) : Interp σ α := fun session =>
  let (result, world) := action session.world
  (result, { session with world })

def run : Interp σ Run := return (← get).run

def bindings : Interp σ PageBindings := return (← get).bindings

def update (change : Run → Run) : Interp σ Unit :=
  modify fun session => { session with run := change session.run }

end Interp

/-- Whether the run is over, by a command or because its time is up. -/
def overdue {σ : Type} : StateM (Session σ) Bool := do
  modify Session.checkTime
  return (← get).run.stopped

/-- Runs the body of a command: it counts, and a fault becomes a failure. -/
def attempt {σ : Type} (body : Interp σ Outcome) :
    StateM (Session σ) Outcome := do
  modify fun session => { session with run := session.run.countCommand }
  match ← ExceptT.run body with
  | .ok outcome => return outcome
  | .error fault => return .ofFault fault

/-- The step of a command that succeeds unless a fault occurs. -/
def report {σ : Type} (body : Interp σ Report) : Step σ :=
  attempt (.ok <$> body)

def attemptUnknown {σ : Type} (kind : String) : Step σ :=
  attempt (throw (.unknownCommand kind))

end Gleaner
