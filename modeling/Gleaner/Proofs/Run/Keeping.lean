import Gleaner.Proofs.Run.Deed
import Gleaner.Proofs.Run.Flow

/-!
# Invariants of a run

A property of sessions that does not depend on where the run stands is kept by the flow of
control when the commands inside keep it. The places where a command can do something to such
a property are few: the items that are saved and those that are marked as done.
-/

set_option autoImplicit false

namespace Gleaner

variable {σ α β : Type}

/-- What is saved and done is the same in both sessions; the run may have been stopped. -/
structure Session.SameLedger (before after : Session σ) : Prop where
  processed : after.run.processed = before.run.processed
  collected : after.run.collected = before.run.collected
  itemsProcessed : after.run.stats.itemsProcessed = before.run.stats.itemsProcessed
  stopped : before.run.stopped = true → after.run.stopped = true
  maxItems : after.maxItems = before.maxItems

theorem Session.SameLedger.ofWorld (session : Session σ) (world : σ) :
    session.SameLedger { session with world } :=
  ⟨rfl, rfl, rfl, id, rfl⟩

theorem Session.SameLedger.checkTime (session : Session σ) :
    session.SameLedger session.checkTime := by
  rcases session.checkTime_cases with ⟨-, same⟩ | ⟨-, same⟩ <;> rw [same]
  · exact ⟨rfl, rfl, rfl, id, rfl⟩
  · exact ⟨rfl, rfl, rfl, fun _ => rfl, rfl⟩

theorem Session.checkTime_bindings (session : Session σ) :
    session.checkTime.bindings = session.bindings := by
  rcases session.checkTime_cases with ⟨-, same⟩ | ⟨-, same⟩ <;> rw [same]

/-- A property that depends on nothing but what is saved and done. -/
def Lasting (I : Session σ → Prop) : Prop :=
  ∀ before after : Session σ, before.SameLedger after → I before → I after

theorem Session.checkTime_staleRounds (session : Session σ) :
    session.checkTime.run.staleRounds = session.run.staleRounds := by
  rcases session.checkTime_cases with ⟨-, same⟩ | ⟨-, same⟩ <;> rw [same]

/-- A property that depends on nothing but the bindings and what is saved and done. -/
def Enduring (I : Session σ → Prop) : Prop :=
  ∀ before after : Session σ, before.SameLedger after → after.bindings = before.bindings →
    I before → I after

/-- A property that depends on nothing but the stale rounds, the bindings and what is saved and
done. -/
def Steady (I : Session σ → Prop) : Prop :=
  ∀ before after : Session σ, before.SameLedger after → after.bindings = before.bindings →
    after.run.staleRounds = before.run.staleRounds → I before → I after

theorem Enduring.steady {I : Session σ → Prop} (enduring : Enduring I) : Steady I :=
  fun before after same bindings _ => enduring before after same bindings

theorem Lasting.enduring {I : Session σ → Prop} (lasting : Lasting I) : Enduring I :=
  fun before after same _ => lasting before after same

theorem bindings_enduring (b : PageBindings) :
    Enduring fun session : Session σ => session.bindings = b :=
  fun _ _ _ same holds => same.trans holds

/-- A program keeps a property of sessions, whatever its result. -/
def Keeps (I : Session σ → Prop) (prog : Session σ → α × Session σ) : Prop :=
  ∀ session, I session → I (prog session).2

namespace Keeps

variable {I : Session σ → Prop}

theorem pure (value : α) : Keeps I (Pure.pure value : StateM (Session σ) α) :=
  fun _ holds => holds

theorem bind {first : StateM (Session σ) α} {next : α → StateM (Session σ) β}
    (keeps : Keeps I first) (nextKeeps : ∀ value, Keeps I (next value)) :
    Keeps I (first >>= next) :=
  fun session holds => nextKeeps _ _ (keeps session holds)

theorem after {first : StateM (Session σ) α} {next : α → StateM (Session σ) β}
    {session : Session σ} (holds : I (first session).2) (nextKeeps : ∀ value, Keeps I (next value)) :
    I ((first >>= next) session).2 :=
  nextKeeps _ _ holds

theorem ok (value : α) : Keeps I (Pure.pure value : Interp σ α) :=
  fun _ holds => holds

theorem bindOk {first : Interp σ α} {next : α → Interp σ β} (keeps : Keeps I first)
    (nextKeeps : ∀ value, Keeps I (next value)) : Keeps I (first >>= next : Interp σ β) := by
  intro session holds
  have kept := keeps session holds
  rw [Interp.bind_apply]
  rcases ran : first session with ⟨fault | value, after⟩
  · rw [ran] at kept
    exact kept
  · rw [ran] at kept
    exact nextKeeps value after kept

theorem ite {condition : Prop} [Decidable condition] {first second : Session σ → α × Session σ}
    (keeps : Keeps I first) (otherKeeps : Keeps I second) :
    Keeps I (if condition then first else second) := by
  split
  · exact keeps
  · exact otherKeeps

section Steady

variable (steady : Steady I)

include steady

theorem looks {prog : Interp σ α} (looks : prog.Looks) : Keeps I prog := by
  intro session holds
  obtain ⟨world, reached⟩ := looks session
  rw [reached]
  exact steady _ _ (.ofWorld session world) rfl rfl holds

theorem watches {prog : StateM (Session σ) α} (watches : Session.Watches prog) :
    Keeps I prog := by
  intro session holds
  obtain ⟨world, reached⟩ := watches session
  rw [reached]
  exact steady _ _ (.ofWorld session world) rfl rfl holds

theorem checkTime {session : Session σ} (holds : I session) : I session.checkTime :=
  steady _ _ (.checkTime session) session.checkTime_bindings session.checkTime_staleRounds holds

theorem overdue : Keeps I (Gleaner.overdue : StateM (Session σ) Bool) :=
  fun _ holds => checkTime steady holds

/-!
## Flow of control
-/

omit steady in
theorem untilFailure {steps : List (Step σ)} (stepsKeep : ∀ step ∈ steps, Keeps I step) :
    Keeps I (Gleaner.untilFailure steps) := by
  induction steps with
  | nil => exact .pure none
  | cons step rest ih =>
      obtain ⟨stepKeeps, restKeep⟩ := List.forall_mem_cons.mp stepsKeep
      refine .bind (fun _ holds => holds) fun session => .ite (.pure none) ?_
      exact .bind stepKeeps fun outcome => .ite (ih restKeep) (.pure _)

theorem regardless {steps : List (Step σ)} (stepsKeep : ∀ step ∈ steps, Keeps I step) :
    Keeps I (Gleaner.regardless steps) := by
  induction steps with
  | nil => exact .pure ()
  | cons step rest ih =>
      obtain ⟨stepKeeps, restKeep⟩ := List.forall_mem_cons.mp stepsKeep
      refine .bind (.overdue steady) fun late => .ite (.pure ()) ?_
      exact .bind (.bind stepKeeps fun _ => .pure ()) fun _ => ih restKeep

/-- Taking the items keeps a property when the body keeps it for each item that it is run
for, from a run that goes on. -/
theorem forItems {skipProcessed : Bool} {body : List (Step σ)}
    (bodyKeeps : ∀ session current, I session → session.run.stopped = false →
      (skipProcessed = true → current.id ∉ session.run.processed) →
      I (Gleaner.untilFailure body (session.atItem current)).2)
    (items : List ListItem) (handled skipped : Nat) :
    Keeps I (Interp.forItems skipProcessed body handled skipped items) := by
  induction items generalizing handled skipped with
  | nil => exact .ok _
  | cons item rest ih =>
      intro session holds
      have holds : I session.checkTime := checkTime steady holds
      rw [Interp.forItems_cons]
      by_cases late : session.checkTime.run.stopped = true
      · rw [if_pos late]
        exact holds
      · rw [if_neg late]
        cases session.checkTime.bindings.toCurrent item with
        | error fault => exact holds
        | ok current =>
            by_cases known : (skipProcessed && session.checkTime.run.isProcessed current.id) = true
            · simp only [known, ↓reduceIte]
              exact ih _ _ _ holds
            · simp only [known]
              refine ih _ _ _ (bodyKeeps _ current holds (Bool.eq_false_iff.mpr late) ?_)
              intro skips found
              exact known (by simp [skips, Run.isProcessed, found])

theorem forEachItem {host : Host σ} {skipProcessed : Bool} {body : List (Step σ)}
    (bodyKeeps : ∀ session current, I session → session.run.stopped = false →
      (skipProcessed = true → current.id ∉ session.run.processed) →
      I (Gleaner.untilFailure body (session.atItem current)).2) :
    Keeps I (Interp.forEachItem host skipProcessed body) := by
  refine .bindOk (looks steady (Interp.listItems_looks host)) fun items => ?_
  cases items with
  | nil => exact .ok _
  | cons item rest =>
      refine .bindOk (forItems steady bodyKeeps _ _ _) fun report => .bindOk ?_ fun _ => .ok report
      exact fun session holds => steady session _ ⟨rfl, rfl, rfl, id, rfl⟩ rfl rfl holds

theorem choose {host : Host σ} {condition : Condition} {steps stepsElse : List (Step σ)}
    (stepsKeep : ∀ step ∈ steps, Keeps I step) (elseKeep : ∀ step ∈ stepsElse, Keeps I step) :
    Keeps I (Interp.choose host condition steps stepsElse) := by
  refine .bindOk (looks steady (Interp.evaluate_looks host condition)) fun taken => ?_
  have branch : Keeps I (Gleaner.untilFailure (if taken then steps else stepsElse)) := by
    cases taken with
    | true => exact untilFailure stepsKeep
    | false => exact untilFailure elseKeep
  refine .bindOk (.bind branch fun _ => .pure _) fun failure => ?_
  cases failure with
  | some failure => exact .ok failure
  | none => exact .ok _

theorem attempt {body : Interp σ Outcome} (keeps : Keeps I body) :
    Keeps I (Gleaner.attempt body) := by
  intro session holds
  have counted : I session.counted := steady session _ ⟨rfl, rfl, rfl, id, rfl⟩ rfl rfl holds
  have kept := keeps _ counted
  rw [attempt_apply]
  rcases ran : body session.counted with ⟨fault | outcome, after⟩
  all_goals
    rw [ran] at kept
    exact kept

theorem report {body : Interp σ Report} (keeps : Keeps I body) : Keeps I (Gleaner.report body) :=
  attempt steady (.bindOk keeps fun _ => .ok _)

end Steady

section Enduring

variable (enduring : Enduring I)

include enduring

theorem pass {host : Host σ} {body : List (Step σ)} (bodyKeeps : ∀ step ∈ body, Keeps I step) :
    Keeps I (Interp.pass host body) := by
  have counts : Keeps I (Interp.countItems host) :=
    looks enduring.steady (Interp.countItems_looks host)
  refine .bindOk counts fun _ => .bindOk (looks enduring.steady .run) fun _ => ?_
  refine .bindOk (.bind (regardless enduring.steady bodyKeeps) fun _ => .pure _) fun _ => ?_
  exact .bindOk counts fun _ session holds => enduring session _ ⟨rfl, rfl, rfl, id, rfl⟩ rfl holds

theorem passes {host : Host σ} {goal : Until} {body : List (Step σ)}
    (bodyKeeps : ∀ step ∈ body, Keeps I step) (scrollsBefore rounds left : Nat) :
    Keeps I (Interp.passes host goal body scrollsBefore rounds left) := by
  induction left generalizing rounds with
  | zero => exact .ok _
  | succ left ih =>
      refine .bindOk (.bind (overdue enduring.steady) fun _ => .pure _) fun late => .ite (.ok _) ?_
      refine .bindOk (pass enduring bodyKeeps) fun _ => ?_
      refine .bindOk (looks enduring.steady (Interp.reached_looks host _ _)) fun _ =>
        .ite (.ok _) ?_
      exact .bindOk (looks enduring.steady (Interp.noMoreItems_looks host)) fun _ =>
        .ite (.ok _) (ih (rounds + 1))

theorem repeatUntil {host : Host σ} {goal : Until} {body : List (Step σ)}
    (bodyKeeps : ∀ step ∈ body, Keeps I step) : Keeps I (Interp.repeatUntil host goal body) :=
  .bindOk (looks enduring.steady .run) fun _ => passes enduring bodyKeeps _ _ _

/-!
## Commands and recipes
-/

/-- A plain command that neither saves an item nor marks one as done. -/
theorem plain {host : Host σ} {command : Command} (plain : command.isPlain = true)
    (quiet : command.writesLedger = false) : Keeps I (command.run host) := by
  intro session holds
  obtain ⟨run, world, reached, deed⟩ := command.run_deed host plain session
  obtain ⟨processed, collected, itemsProcessed, stopped⟩ := deed.ledger quiet
  rw [reached]
  exact enduring _ _ ⟨processed, collected, itemsProcessed, stopped, rfl⟩ rfl holds

omit enduring in
theorem steps {host : Host σ} {commands : List Command}
    (commandsKeep : ∀ command ∈ commands, Keeps I (command.run host)) :
    ∀ step ∈ Command.steps host commands, Keeps I step := by
  induction commands with
  | nil => exact fun step found => absurd found List.not_mem_nil
  | cons command rest ih =>
      obtain ⟨keeps, restKeep⟩ := List.forall_mem_cons.mp commandsKeep
      exact List.forall_mem_cons.mpr ⟨keeps, ih restKeep⟩

end Enduring

section Lasting

variable (lasting : Lasting I)

include lasting

theorem repairAndRetry {host : Host σ} {command : Command} (keeps : Keeps I (command.run host))
    (failure : Outcome) : Keeps I (Session.repairAndRetry host command failure) := by
  refine .bind (watches lasting.enduring.steady (Session.proposal_watches host _ _)) fun changes =>
    .ite (.pure _) fun session holds => ?_
  rw [Session.bind_apply, Session.get_apply]
  dsimp only
  cases accepted : session.patch host.clock changes with
  | error fault => exact holds
  | ok patched =>
      have fixed : I { patched with run := patched.run.countFix } := by
        obtain ⟨bindings, rfl⟩ := Session.patch_bindings accepted
        exact lasting session _ ⟨rfl, rfl, rfl, id, rfl⟩ holds
      refine Keeps.after fixed fun _ => .bind keeps fun outcome => ?_
      cases outcome with
      | ok report => exact .pure _
      | failed error repairable => exact .pure _

theorem runTop {host : Host σ} {command : Command} (keeps : Keeps I (command.run host)) :
    Keeps I (Session.runTop host command) := by
  refine .bind keeps fun outcome => ?_
  cases outcome with
  | ok report => exact .pure _
  | failed error repairable => exact repairAndRetry lasting keeps _

theorem runAll {host : Host σ} {commands : List Command}
    (commandsKeep : ∀ command ∈ commands, Keeps I (command.run host)) :
    Keeps I (Session.runAll host commands) := by
  induction commands with
  | nil => exact .pure none
  | cons command rest ih =>
      obtain ⟨keeps, restKeep⟩ := List.forall_mem_cons.mp commandsKeep
      refine .bind (overdue lasting.enduring.steady) fun late => .ite (.pure none) ?_
      refine .bind (runTop lasting keeps) fun outcome => ?_
      cases outcome with
      | ok report => exact ih restKeep
      | failed error repairable => exact .pure _

/-- A run that begins with a property keeps it to its end. -/
theorem execute {host : Host σ} {recipe : Recipe} {session : Session σ}
    (begun : I (Session.begin host recipe.limits session).2)
    (commandsKeep : ∀ command ∈ recipe.commands, Keeps I (command.run host)) :
    I (Session.execute host recipe session).2 := by
  refine Keeps.after begun fun result => ?_
  cases result with
  | error fault => exact .pure _
  | ok _ =>
      refine .bind (runAll lasting commandsKeep) fun error => .bind ?_ fun _ => .pure _
      exact fun session holds => lasting session _ ⟨rfl, rfl, rfl, id, rfl⟩ holds

end Lasting

end Keeps

/-!
## Bindings
-/

mutual

/-- No command changes the bindings, nor does any inside it. -/
theorem Command.run_bindings (host : Host σ) (b : PageBindings) (command : Command) :
    Keeps (fun session => session.bindings = b) (command.run host) := by
  have enduring := bindings_enduring b (σ := σ)
  have plain {command : Command} (plain : command.isPlain = true) :
      Keeps (fun session : Session σ => session.bindings = b) (command.run host) := by
    intro session holds
    obtain ⟨run, world, reached, -⟩ := command.run_deed host plain session
    rw [reached]
    exact holds
  cases command with
  | forEachItem body skipProcessed =>
      exact .report enduring.steady (.forEachItem enduring.steady fun session current holds _ _ =>
        Keeps.untilFailure (Command.steps_bindings host b body) _ holds)
  | choose condition thenBranch elseBranch =>
      exact .attempt enduring.steady (.choose enduring.steady
        (Command.steps_bindings host b thenBranch) (Command.steps_bindings host b elseBranch))
  | repeatUntil body goal =>
      exact .report enduring.steady (.repeatUntil enduring (Command.steps_bindings host b body))
  | _ => exact plain (by rfl)

theorem Command.steps_bindings (host : Host σ) (b : PageBindings) (commands : List Command) :
    ∀ step ∈ Command.steps host commands, Keeps (fun session => session.bindings = b) step := by
  cases commands with
  | nil => exact List.forall_mem_nil _
  | cons command rest =>
      exact List.forall_mem_cons.mpr
        ⟨Command.run_bindings host b command, Command.steps_bindings host b rest⟩

end

end Gleaner
