import Gleaner.Run.Execute

/-!
# The chronicle of a run

A run that keeps a chronicle: the flow of control once more, step for step, with the session
noted after everything that it does and the command noted wherever one starts. Whatever a
plain command does is one entry of the chronicle.
-/

set_option autoImplicit false

namespace Gleaner

/-- A point of a run: the session there, and the command that starts there if one does. -/
structure Moment (σ : Type) where
  session : Session σ
  starting : Option Command := none

/-- A program of a session that notes the moments it goes through, the latest one last. -/
abbrev Telling (σ : Type) := StateM (Session σ × List (Moment σ))

namespace Telling

variable {σ α : Type}

/-- Runs a program and notes the session after it. -/
def tell (prog : StateM (Session σ) α) : Telling σ α := fun (session, past) =>
  let (value, after) := prog session
  (value, after, past ++ [{ session := after }])

/-- Runs a program that may fail and notes the session after it. -/
def say (prog : Interp σ α) : ExceptT Fault (Telling σ) α :=
  ExceptT.mk (tell (ExceptT.run prog))

/-- Notes that a command starts, and goes on. -/
def starting (command : Command) (next : Telling σ α) : Telling σ α := fun (session, past) =>
  next (session, past ++ [{ session, starting := some command }])

/-!
## Flow of control
-/

/-- Runs the body of a command that runs other commands. -/
def attempt (command : Command) (body : ExceptT Fault (Telling σ) Outcome) :
    Telling σ Outcome :=
  starting command do
    tell (modify fun session => { session with run := session.run.countCommand })
    match ← ExceptT.run body with
    | .ok outcome => return outcome
    | .error fault => return .ofFault fault

def untilFailure : List (Telling σ Outcome) → Telling σ (Option Outcome)
  | [] => return none
  | step :: rest => do
      let run := (← tell get).run
      if run.stopped || run.skipping then return none
      let outcome ← step
      if outcome.isOk then untilFailure rest else return some outcome

def regardless : List (Telling σ Outcome) → Telling σ Unit
  | [] => return ()
  | step :: rest => do
      if ← tell overdue then return ()
      discard step
      regardless rest

variable (host : Host σ)

def forItems (skipProcessed : Bool) (body : List (Telling σ Outcome)) (handled skipped : Nat) :
    List ListItem → ExceptT Fault (Telling σ) Report
  | [] => return .visited handled skipped
  | item :: rest => do
      if ← (tell overdue : Telling σ Bool) then return .visited handled skipped
      let current ← say do liftM ((← Interp.bindings).toCurrent item)
      if skipProcessed && (← say Interp.run).isProcessed current.id then
        forItems skipProcessed body handled (skipped + 1) rest
      else
        say (Interp.update fun run => { run.enter current with skipping := false })
        discard (untilFailure body : Telling σ (Option Outcome))
        forItems skipProcessed body (handled + 1) skipped rest

def forEachItem (skipProcessed : Bool) (body : List (Telling σ Outcome)) :
    ExceptT Fault (Telling σ) Report := do
  match ← say (Interp.listItems host) with
  | [] => return .visited 0 0
  | items =>
      let report ← forItems skipProcessed body 0 0 items
      say (Interp.update fun run => { run with skipping := false })
      return report

def choose (condition : Condition) (thenBranch elseBranch : List (Telling σ Outcome)) :
    ExceptT Fault (Telling σ) Outcome := do
  let taken ← say (Interp.evaluate host condition)
  match ← (untilFailure (if taken then thenBranch else elseBranch) :
      Telling σ (Option Outcome)) with
  | some failure => return failure
  | none => return .ok (.took taken)

def pass (body : List (Telling σ Outcome)) : ExceptT Fault (Telling σ) Unit := do
  let countBefore ← say (Interp.countItems host)
  let collectedBefore := (← say Interp.run).collected.length
  regardless body
  let countAfter ← say (Interp.countItems host)
  say (Interp.update fun run =>
    let news := countBefore < countAfter || collectedBefore < run.collected.length
    { run with staleRounds := if news then 0 else run.staleRounds + 1 })

def passes (goal : Until) (body : List (Telling σ Outcome)) (scrollsBefore rounds : Nat) :
    (left : Nat) → ExceptT Fault (Telling σ) Report
  | 0 => return .repeated rounds true
  | left + 1 => do
      if ← (tell overdue : Telling σ Bool) then return .repeated rounds false
      pass host body
      if ← say (Interp.reached host scrollsBefore goal) then return .repeated (rounds + 1) false
      if ← say (Interp.noMoreItems host) then return .repeated (rounds + 1) false
      passes goal body scrollsBefore (rounds + 1) left

def repeatUntil (goal : Until) (body : List (Telling σ Outcome)) :
    ExceptT Fault (Telling σ) Report := do
  passes host goal body (← say Interp.run).stats.scrollsPerformed 0
    host.settings.maxRepeatIterations

/-!
## Commands and recipes
-/

mutual

def command : Command → Telling σ Outcome
  | .forEachItem body skipProcessed =>
      attempt (.forEachItem body skipProcessed)
        (.ok <$> forEachItem host skipProcessed (commands body))
  | .choose condition thenBranch elseBranch =>
      attempt (.choose condition thenBranch elseBranch)
        (choose host condition (commands thenBranch) (commands elseBranch))
  | .repeatUntil body goal =>
      attempt (.repeatUntil body goal) (.ok <$> repeatUntil host goal (commands body))
  | plain => starting plain (tell (plain.run host))

def commands : List Command → List (Telling σ Outcome)
  | [] => []
  | first :: rest => command first :: commands rest

end

def repairAndRetry (failed : Command) (failure : Outcome) : Telling σ Outcome := do
  let changes ← tell (Session.proposal host failed failure)
  if changes.isEmpty then return failure
  match (← tell get).patch host.clock changes with
  | .error _ => return failure
  | .ok patched =>
      tell (set { patched with run := patched.run.countFix })
      match ← command host failed with
      | .ok report => return .ok report
      | .failed error _ => return .failed ("Command failed after fix: " ++ error) false

def runTop (top : Command) : Telling σ Outcome := do
  match ← command host top with
  | .ok report => return .ok report
  | failure => repairAndRetry host top failure

def runAll : List Command → Telling σ (Option String)
  | [] => return none
  | first :: rest => do
      if ← tell overdue then return none
      match ← runTop host first with
      | .ok _ => runAll rest
      | .failed error _ => return some error

def execute (recipe : Recipe) : Telling σ (Except Fault RunResult) := do
  match ← tell (Session.begin host recipe.limits) with
  | .error fault => return .error fault
  | .ok _ =>
      let error ← runAll host recipe.commands
      return .ok (← tell (Session.conclude host recipe.limits error))

end Telling

end Gleaner
