import Gleaner.Run.Items
import Gleaner.Run.Wait

/-!
# Flow of control

How a command runs other commands: once for each item of the list, one of two branches, or
again and again until a goal is reached. The commands inside are given as steps, so that this
is said without saying what a command is.
-/

set_option autoImplicit false

namespace Gleaner

variable {σ : Type}

/-- Runs steps in order up to the first failure, which is the answer; a stop or a skip leaves
the rest out. -/
def untilFailure : List (Step σ) → StateM (Session σ) (Option Outcome)
  | [] => return none
  | step :: rest => do
      let run := (← get).run
      if run.stopped || run.skipping then return none
      let outcome ← step
      if outcome.isOk then untilFailure rest else return some outcome

/-- Runs steps in order, whatever their outcomes, until the run is over. -/
def regardless : List (Step σ) → StateM (Session σ) Unit
  | [] => return ()
  | step :: rest => do
      if ← overdue then return ()
      discard step
      regardless rest

namespace Interp

variable (host : Host σ)

/-- Runs a body for each of some items; processed ones may be passed over. -/
def forItems (skipProcessed : Bool) (body : List (Step σ)) (handled skipped : Nat) :
    List ListItem → Interp σ Report
  | [] => return .visited handled skipped
  | item :: rest => do
      if ← (overdue : StateM (Session σ) Bool) then return .visited handled skipped
      let current ← liftM ((← bindings).toCurrent item)
      if skipProcessed && (← run).isProcessed current.id then
        forItems skipProcessed body handled (skipped + 1) rest
      else
        update fun run => { run.enter current with skipping := false }
        discard (untilFailure body)
        forItems skipProcessed body (handled + 1) skipped rest

/-- Runs a body for each item of the list as it is at the beginning. -/
def forEachItem (skipProcessed : Bool) (body : List (Step σ)) : Interp σ Report := do
  match ← listItems host with
  | [] => return .visited 0 0
  | items =>
      let report ← forItems skipProcessed body 0 0 items
      update fun run => { run with skipping := false }
      return report

/-- Runs one of two branches; its first failure is the outcome. -/
def choose (condition : Condition) (thenBranch elseBranch : List (Step σ)) :
    Interp σ Outcome := do
  let taken ← evaluate host condition
  match ← untilFailure (if taken then thenBranch else elseBranch) with
  | some failure => return failure
  | none => return .ok (.took taken)

/-- One pass of a repetition; a pass without new items or saves is stale. -/
def pass (body : List (Step σ)) : Interp σ Unit := do
  let countBefore ← countItems host
  let collectedBefore := (← run).collected.length
  regardless body
  let countAfter ← countItems host
  update fun run =>
    let news := countBefore < countAfter || collectedBefore < run.collected.length
    { run with staleRounds := if news then 0 else run.staleRounds + 1 }

/-- Makes passes until the goal is reached, the list ends or the run is over; `left` more
passes are allowed. -/
def passes (goal : Until) (body : List (Step σ)) (scrollsBefore rounds : Nat) :
    (left : Nat) → Interp σ Report
  | 0 => return .repeated rounds true
  | left + 1 => do
      if ← (overdue : StateM (Session σ) Bool) then return .repeated rounds false
      pass host body
      if ← reached host scrollsBefore goal then return .repeated (rounds + 1) false
      if ← noMoreItems host then return .repeated (rounds + 1) false
      passes goal body scrollsBefore (rounds + 1) left

def repeatUntil (goal : Until) (body : List (Step σ)) : Interp σ Report := do
  passes host goal body (← run).stats.scrollsPerformed 0 host.settings.maxRepeatIterations

end Interp

end Gleaner
