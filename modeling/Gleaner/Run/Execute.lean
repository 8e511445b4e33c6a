import Gleaner.Run.Repair

/-!
# Running a recipe

A run begins afresh, takes the commands of the recipe in order, and ends at the first failure
that is not repaired, at a stop, or when its time is up. Its result has everything that was
saved, whatever the end.
-/

set_option autoImplicit false

namespace Gleaner

structure RunResult where
  items : List Item
  stats : RunStats
  /-- Why the run failed, if it did. -/
  error : Option String

namespace RunResult

def success (result : RunResult) : Bool :=
  result.error.isNone

end RunResult

namespace Session

variable {σ : Type} (host : Host σ)

/-- Begins a run. A time limit out of range is a fault, after the old run is gone. -/
def begin (limits : RunLimits) : StateM (Session σ) (Except Fault Unit) := do
  modify fun session =>
    { session with
      run := { startedAt := host.clock.time session.world }
      maxItems := limits.maxItems
      timedOut := false }
  let session ← get
  match limits.timeoutMs with
  | none => set { session with deadline := none }; return .ok ()
  | some timeoutMs =>
      match host.clock.deadline timeoutMs session.world with
      | .ok deadline => set { session with deadline := some deadline }; return .ok ()
      | .error fault => return .error fault

/-- Runs a command of the recipe itself, with a repair if it helps. -/
def runTop (command : Command) : StateM (Session σ) Outcome := do
  match ← command.run host with
  | .ok report => return .ok report
  | failure => repairAndRetry host command failure

/-- Runs the commands of a recipe; the answer is the error that ended them. -/
def runAll : List Command → StateM (Session σ) (Option String)
  | [] => return none
  | command :: rest => do
      if ← overdue then return none
      match ← runTop host command with
      | .ok _ => runAll rest
      | .failed error _ => return some error

def timeoutMessage (limits : RunLimits) : String :=
  "Recipe timed out after " ++ toString (limits.timeoutMs.getD 0) ++ "ms"

def conclude (limits : RunLimits) (error : Option String) : StateM (Session σ) RunResult := do
  let session ← get
  let durationMs := (host.clock.time session.world - session.run.startedAt) * 1000
  let run := { session.run with stats := { session.run.stats with durationMs } }
  set { session with run }
  let late := if session.timedOut then some (timeoutMessage limits) else none
  return { items := run.collected, stats := run.stats, error := error.or late }

def execute (recipe : Recipe) : StateM (Session σ) (Except Fault RunResult) := do
  match ← begin host recipe.limits with
  | .error fault => return .error fault
  | .ok _ =>
      let error ← runAll host recipe.commands
      return .ok (← conclude host recipe.limits error)

end Session

end Gleaner
