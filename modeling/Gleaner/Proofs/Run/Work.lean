import Gleaner.Proofs.Run.Deadline
import Gleaner.Proofs.Run.Polling
import Gleaner.Proofs.Run.Repairs

/-!
# The work of a run

How many commands a run may execute can be read off its recipe, once it is known how long the
lists are: a loop over a list runs its body for each item of it, a repetition makes no more
passes than are allowed, and of two branches one is taken. A command of the recipe itself may
be tried again after a repair; it is a plain command then, and counts once more.
-/

set_option autoImplicit false

namespace Gleaner

variable {σ α β : Type}

/-!
## The cost of a command
-/

mutual

/-- The most commands that are executed for a command, itself included, with lists of at most
`most` items and repetitions of at most `passes` passes. -/
def Command.cost (most passes : Nat) : Command → Nat
  | .forEachItem body _ => 1 + most * Command.costs most passes body
  | .choose _ thenBranch elseBranch =>
      1 + max (Command.costs most passes thenBranch) (Command.costs most passes elseBranch)
  | .repeatUntil body _ => 1 + passes * Command.costs most passes body
  | _ => 1

def Command.costs (most passes : Nat) : List Command → Nat
  | [] => 0
  | command :: rest => command.cost most passes + Command.costs most passes rest

end

/-- With the one try more of a command that depends on a binding. -/
def Command.topCost (most passes : Nat) (command : Command) : Nat :=
  command.cost most passes + if command.bindingKey?.isSome then 1 else 0

def Recipe.budget (most passes : Nat) (recipe : Recipe) : Nat :=
  (recipe.commands.map (Command.topCost most passes)).sum

theorem Command.costs_eq (most passes : Nat) (commands : List Command) :
    Command.costs most passes commands = (commands.map (Command.cost most passes)).sum := by
  induction commands with
  | nil => rfl
  | cons command rest ih => rw [Command.costs, ih, List.map_cons, List.sum_cons]

theorem Command.cost_of_plain (most passes : Nat) {command : Command}
    (plain : command.isPlain = true) : command.cost most passes = 1 := by
  cases command <;> first | rfl | cases plain

/-!
## What programs spend
-/

/-- No list of the page is longer than this. -/
def Host.ListsAtMost (host : Host σ) (most : Nat) : Prop :=
  ∀ selector idSelector attrName world items,
    (host.page.items selector idSelector attrName world).1 = .ok items → items.length ≤ most

theorem Host.ListsAtMost.listItems {host : Host σ} {most : Nat} (short : host.ListsAtMost most)
    {session after : Session σ} {items : List ListItem}
    (listed : Interp.listItems host session = (.ok items, after)) : items.length ≤ most := by
  simp only [Interp.listItems, Interp.bind_apply, Interp.bindings_apply,
    Interp.liftExcept_apply] at listed
  cases found : session.bindings.itemSelector with
  | error fault =>
      rw [found] at listed
      cases listed
  | ok selector =>
      rw [found] at listed
      exact short _ _ _ session.world items (congrArg Prod.fst listed)

/-- Whatever comes of a program, it executes at most so many commands. -/
def Spends (most : Nat) (prog : Session σ → α × Session σ) : Prop :=
  ∀ session, (prog session).2.run.stats.commandsExecuted ≤
    session.run.stats.commandsExecuted + most

namespace Spends

variable {n m : Nat}

theorem mono {prog : Session σ → α × Session σ} (spends : Spends n prog) (more : n ≤ m) :
    Spends m prog :=
  fun session => (spends session).trans (Nat.add_le_add_left more _)

theorem pure (value : α) : Spends 0 (Pure.pure value : StateM (Session σ) α) :=
  fun _ => le_rfl

theorem bind {first : StateM (Session σ) α} {next : α → StateM (Session σ) β}
    (spends : Spends n first) (nextSpends : ∀ value, Spends m (next value)) :
    Spends (n + m) (first >>= next) := by
  intro session
  have here := spends session
  have there := nextSpends (first session).1 (first session).2
  rw [Session.bind_apply]
  omega

theorem ok (value : α) : Spends 0 (Pure.pure value : Interp σ α) :=
  fun _ => le_rfl

theorem bindOk {first : Interp σ α} {next : α → Interp σ β} (spends : Spends n first)
    (nextSpends : ∀ value, Spends m (next value)) :
    Spends (n + m) (first >>= next : Interp σ β) := by
  intro session
  have here := spends session
  rw [Interp.bind_apply]
  rcases ran : first session with ⟨fault | value, after⟩
  · rw [ran] at here
    exact here.trans (by omega)
  · rw [ran] at here
    have there := nextSpends value after
    dsimp only at here ⊢
    omega

theorem bindFree {first : Interp σ α} {next : α → Interp σ β} (spends : Spends n first)
    (free : ∀ value, Spends 0 (next value)) : Spends n (first >>= next : Interp σ β) :=
  bindOk spends free

theorem lift {prog : StateM (Session σ) α} (spends : Spends n prog) :
    Spends n (liftM prog : Interp σ α) :=
  fun session => spends session

theorem afterFree {first : Interp σ α} {next : α → Interp σ β} (free : Spends 0 first)
    (spends : ∀ value, Spends n (next value)) : Spends n (first >>= next : Interp σ β) :=
  (bindOk free spends).mono (Nat.zero_add n).le

theorem looks {prog : Interp σ α} (looks : prog.Looks) : Spends 0 prog := by
  intro session
  obtain ⟨world, reached⟩ := looks session
  rw [reached]
  exact le_rfl

theorem afterLook {first : Interp σ α} {next : α → Interp σ β} (looks : first.Looks)
    (spends : ∀ value, Spends n (next value)) : Spends n (first >>= next : Interp σ β) :=
  afterFree (.looks looks) spends

theorem ite {condition : Prop} [Decidable condition] {first second : Session σ → α × Session σ}
    (spends : Spends n first) (otherSpends : Spends n second) :
    Spends n (if condition then first else second) := by
  split
  · exact spends
  · exact otherSpends

theorem watches {prog : StateM (Session σ) α} (watches : Session.Watches prog) :
    Spends 0 prog := by
  intro session
  obtain ⟨world, reached⟩ := watches session
  rw [reached]
  exact le_rfl

theorem checkTime (session : Session σ) :
    session.checkTime.run.stats = session.run.stats := by
  rcases session.checkTime_cases with ⟨-, same⟩ | ⟨-, same⟩ <;> rw [same]

theorem overdue : Spends 0 (Gleaner.overdue : StateM (Session σ) Bool) :=
  fun session => (congrArg RunStats.commandsExecuted (checkTime session)).le

/-!
## Flow of control
-/

theorem untilFailure {costs : List Nat} {steps : List (Step σ)}
    (each : List.Forall₂ Spends costs steps) : Spends costs.sum (Gleaner.untilFailure steps) := by
  induction each with
  | nil => exact .pure none
  | @cons cost step costs steps spends _ ih =>
      intro session
      have here := spends session
      have there := ih (step session).2
      rw [untilFailure_cons, List.sum_cons]
      split
      · exact Nat.le_add_right _ _
      · split
        · omega
        · exact here.trans (by omega)

theorem regardless {costs : List Nat} {steps : List (Step σ)}
    (each : List.Forall₂ Spends costs steps) : Spends costs.sum (Gleaner.regardless steps) := by
  induction each with
  | nil => exact .pure ()
  | @cons cost step costs steps spends _ ih =>
      intro session
      have here := spends session.checkTime
      have there := ih (step session.checkTime).2
      rw [checkTime] at here
      rw [regardless_cons, List.sum_cons]
      split
      · exact (overdue session).trans (Nat.add_le_add_left (Nat.zero_le _) _)
      · omega

theorem forItems {body : List (Step σ)} (skipProcessed : Bool)
    (spends : Spends n (Gleaner.untilFailure body)) (items : List ListItem)
    (handled skipped : Nat) :
    Spends (items.length * n) (Interp.forItems skipProcessed body handled skipped items) := by
  induction items generalizing handled skipped with
  | nil => exact (ok _).mono (Nat.zero_le _)
  | cons item rest ih =>
      intro session
      have checked := overdue session
      rw [Interp.forItems_cons, List.length_cons, Nat.succ_mul]
      split
      · exact checked.trans (by omega)
      · cases session.checkTime.bindings.toCurrent item with
        | error fault => exact checked.trans (by omega)
        | ok current =>
            dsimp only
            split
            · exact (ih _ _ session.checkTime).trans (by rw [checkTime]; omega)
            · have here := spends (session.checkTime.atItem current)
              have entered : (session.checkTime.atItem current).run.stats = session.run.stats :=
                checkTime session
              rw [entered] at here
              exact (ih _ _ _).trans (by omega)

theorem forEachItem {host : Host σ} {most : Nat} (short : host.ListsAtMost most)
    (skipProcessed : Bool) {body : List (Step σ)}
    (spends : Spends n (Gleaner.untilFailure body)) :
    Spends (most * n) (Interp.forEachItem host skipProcessed body) := by
  intro session
  rw [Interp.forEachItem_apply]
  obtain ⟨world, reached⟩ := Interp.listItems_looks host session
  rcases ran : Interp.listItems host session with ⟨fault | items, after⟩
  all_goals
    rw [ran] at reached
    dsimp only at reached
    subst reached
  · exact Nat.le_add_right _ _
  · have few : items.length * n ≤ most * n := Nat.mul_le_mul_right n (short.listItems ran)
    dsimp only
    split
    · exact Nat.le_add_right _ _
    · have taken := forItems skipProcessed spends items 0 0 { session with world }
      rcases visited : Interp.forItems skipProcessed body 0 0 items { session with world } with
        ⟨fault | report, final⟩
      all_goals
        rw [visited] at taken
        exact taken.trans (Nat.add_le_add_left few _)

theorem choose {steps stepsElse : List (Step σ)} (host : Host σ) (condition : Condition)
    (spends : Spends n (Gleaner.untilFailure steps))
    (elseSpends : Spends m (Gleaner.untilFailure stepsElse)) :
    Spends (max n m) (Interp.choose host condition steps stepsElse) := by
  refine afterLook (Interp.evaluate_looks host condition) fun taken => ?_
  have branch : Spends (max n m) (Gleaner.untilFailure (if taken then steps else stepsElse)) := by
    cases taken with
    | true => exact spends.mono (Nat.le_max_left _ _)
    | false => exact elseSpends.mono (Nat.le_max_right _ _)
  refine bindFree (lift branch) fun failure => ?_
  cases failure with
  | none => exact ok _
  | some failure => exact ok _

theorem pass {host : Host σ} {body : List (Step σ)}
    (spends : Spends n (Gleaner.regardless body)) : Spends n (Interp.pass host body) := by
  refine afterLook (Interp.countItems_looks host) fun _ => afterLook .run fun _ => ?_
  refine bindFree (lift spends) fun _ => ?_
  exact afterLook (Interp.countItems_looks host) fun _ _ => le_rfl

theorem passes {host : Host σ} {body : List (Step σ)}
    (spends : Spends n (Gleaner.regardless body)) (goal : Until) (before rounds left : Nat) :
    Spends (left * n) (Interp.passes host goal body before rounds left) := by
  induction left generalizing rounds with
  | zero => exact (ok _).mono (Nat.zero_le _)
  | succ left ih =>
      have stop (report : Report) (most : Nat) :
          Spends most (Pure.pure report : Interp σ Report) := (ok report).mono (Nat.zero_le most)
      rw [Nat.succ_mul, Nat.add_comm]
      refine afterFree (lift overdue) fun _ => ite (stop _ _) (bindOk (pass spends) fun _ => ?_)
      refine afterLook (Interp.reached_looks host _ _) fun _ => ite (stop _ _) ?_
      exact afterLook (Interp.noMoreItems_looks host) fun _ => ite (stop _ _) (ih _)

theorem repeatUntil {host : Host σ} {body : List (Step σ)}
    (spends : Spends n (Gleaner.regardless body)) (goal : Until) :
    Spends (host.settings.maxRepeatIterations * n) (Interp.repeatUntil host goal body) :=
  afterLook .run fun _ => passes spends goal _ _ _

/-!
## Commands and recipes
-/

theorem attempt {body : Interp σ Outcome} (spends : Spends n body) :
    Spends (1 + n) (Gleaner.attempt body) := by
  intro session
  have here := spends session.counted
  have counted : session.counted.run.stats.commandsExecuted =
      session.run.stats.commandsExecuted + 1 := rfl
  rw [counted] at here
  rw [attempt_snd]
  omega

theorem report {body : Interp σ Report} (spends : Spends n body) :
    Spends (1 + n) (Gleaner.report body) :=
  attempt (bindFree spends fun _ => ok _)

mutual

/-- A command executes no more commands than it costs. -/
theorem command {host : Host σ} {most : Nat} (short : host.ListsAtMost most) (command : Command) :
    Spends (command.cost most host.settings.maxRepeatIterations) (command.run host) := by
  cases plain : command.isPlain with
  | true =>
      intro session
      rw [command.run_commandsExecuted host plain session, Command.cost_of_plain _ _ plain]
  | false =>
      cases command with
      | forEachItem body skipProcessed =>
          rw [Command.run, Command.cost, Command.costs_eq]
          exact report (forEachItem short skipProcessed (untilFailure (steps short body)))
      | choose condition thenBranch elseBranch =>
          rw [Command.run, Command.cost, Command.costs_eq, Command.costs_eq]
          exact attempt (choose host condition (untilFailure (steps short thenBranch))
            (untilFailure (steps short elseBranch)))
      | repeatUntil body goal =>
          rw [Command.run, Command.cost, Command.costs_eq]
          exact report (repeatUntil (regardless (steps short body)) goal)
      | _ => cases plain

theorem steps {host : Host σ} {most : Nat} (short : host.ListsAtMost most)
    (commands : List Command) :
    List.Forall₂ Spends (commands.map (Command.cost most host.settings.maxRepeatIterations))
      (Command.steps host commands) := by
  cases commands with
  | nil => exact .nil
  | cons head rest => exact .cons (command short head) (steps short rest)

end

end Spends

/-!
## The recipe's own commands
-/

namespace Session

variable {host : Host σ} {most : Nat}

/-- A command that is tried again depends on a binding, and such a command is a plain one. -/
theorem repairAndRetry_spends (command : Command) (failure : Outcome) :
    Spends (if command.bindingKey?.isSome then 1 else 0)
      (repairAndRetry host command failure) := by
  intro session
  obtain ⟨world, reached⟩ := proposal_watches host command failure session
  rw [repairAndRetry_apply, reached]
  unfold settle
  split
  · exact Nat.le_add_right _ _
  next asked =>
    have keyed : command.bindingKey?.isSome = true :=
      bindingKey_of_proposal fun nothing => asked (by rw [nothing]; rfl)
    cases accepted : Session.patch host.clock _ { session with world } with
    | error fault => exact Nat.le_add_right _ _
    | ok patched =>
        obtain ⟨bindings, rfl⟩ := patch_bindings accepted
        dsimp only
        rw [command.run_commandsExecuted host (Command.isPlain_of_key keyed), if_pos keyed]
        exact le_rfl

theorem runTop_spends (short : host.ListsAtMost most) (command : Command) :
    Spends (command.topCost most host.settings.maxRepeatIterations) (runTop host command) := by
  intro session
  have ran := Spends.command short command session
  rw [runTop_apply, Command.topCost]
  rcases tried : command.run host session with ⟨report | ⟨error, repairable⟩, after⟩
  all_goals
    rw [tried] at ran
    dsimp only at ran ⊢
  · omega
  · have again := @repairAndRetry_spends _ host command (.failed error repairable) after
    omega

theorem runAll_spends (short : host.ListsAtMost most) (commands : List Command) :
    Spends (commands.map (Command.topCost most host.settings.maxRepeatIterations)).sum
      (runAll host commands) := by
  induction commands with
  | nil => exact .pure none
  | cons command rest ih =>
      intro session
      have tried := runTop_spends short command session.checkTime
      rw [Spends.checkTime] at tried
      rw [runAll_cons, List.map_cons, List.sum_cons]
      split
      · exact (Spends.overdue session).trans (Nat.add_le_add_left (Nat.zero_le _) _)
      · rcases ran : runTop host command session.checkTime with
          ⟨report | ⟨error, repairable⟩, after⟩
        all_goals
          rw [ran] at tried
          dsimp only at tried ⊢
        · have others := ih after
          omega
        · omega

/-- Every run ends, however the page answers and whatever fails: its waits come to their end,
and it executes no more commands than its recipe has a budget for, counted from its beginning
and told in its result. -/
theorem execute_bounded {elapsed : σ → ℚ} (short : host.ListsAtMost most)
    (ticks : host.Ticks elapsed) (recipe : Recipe) (session : Session σ) :
    (∀ condition timeoutMs (waiting : Session σ),
      Interp.Ends host (Interp.holds host condition) timeoutMs waiting ∧
        Interp.Ends host (do return !(← Interp.holds host condition)) timeoutMs waiting) ∧
      (execute host recipe session).2.run.stats.commandsExecuted ≤
        recipe.budget most host.settings.maxRepeatIterations ∧
      ∀ result, (execute host recipe session).1 = .ok result →
        result.stats.commandsExecuted ≤
          recipe.budget most host.settings.maxRepeatIterations := by
  have final : (execute host recipe session).2.run.stats.commandsExecuted ≤
      recipe.budget most host.settings.maxRepeatIterations := by
    have fresh := (begin_fresh host session recipe.limits).1
    rw [execute_apply]
    rcases begun : begin host recipe.limits session with ⟨fault | _, after⟩
    all_goals
      rw [begun] at fresh
      dsimp only at fresh ⊢
    · rw [fresh]
      exact Nat.zero_le _
    · have spent := runAll_spends short recipe.commands after
      rw [fresh] at spent
      -- Nothing is executed at the beginning, and the end only notes the time.
      exact spent.trans (Nat.zero_add _).le
  refine ⟨fun condition => Interp.waits_end ticks condition, final, fun result ended => ?_⟩
  rw [(execute_result host recipe session ended).2]
  exact final

end Session

/-!
## A budget that is used up
-/

namespace Rehearsal

/-- The time of a rehearsal in milliseconds. -/
def World.milliseconds (world : World) : ℚ :=
  world.us / 1000

theorem World.call_later (method : String) (args : List Json) (world : World) :
    world.us ≤ (World.call method args world).2.us := by
  have later : world.us ≤
      world.us + (((Entries.find? method world.latency).getD 0 : Nat) : Int) * 1000 := by
    omega
  unfold World.call World.takeFault
  dsimp only [World.record]
  split
  all_goals
    next found =>
      split at found <;> cases found <;> exact later

theorem World.look_later {α : Type} (method : String) (args : List Json) (f : World → α)
    (world : World) :
    world.milliseconds ≤ (World.look method args f world).2.milliseconds := by
  have later : world.us ≤ (World.look method args f world).2.us := by
    have called := World.call_later method args world
    unfold World.look
    simp only [bind, ExceptT.bind, ExceptT.mk, ExceptT.bindCont, StateT.bind]
    rcases ran : World.call method args world with ⟨fault | _, after⟩ <;> rwa [ran] at called
  exact div_le_div_of_nonneg_right (mod_cast later) (by decide)

theorem World.pause_passes {ms : Nat} (short : ms ≤ 1000000000000) {world paused : World}
    (went : World.pause (.ofMs ms) world = (.ok (), paused)) :
    paused.us = world.us + ms * 1000 := by
  have length : World.pauseLength (.ofMs ms) = .ok (min (ms * 1000 : Int) 1000000000000000) ∨
      ∃ fault, World.pauseLength (.ofMs ms) = .error fault := by
    unfold World.pauseLength
    cases Span.toSeconds (.ofMs ms) with
    | error fault => exact .inr ⟨fault, rfl⟩
    | ok seconds => exact .inl rfl
  unfold World.pause at went
  simp only [bind, ExceptT.bind, ExceptT.mk, ExceptT.bindCont, StateT.bind] at went
  rcases length with length | ⟨fault, length⟩
  all_goals
    rw [length] at went
    cases went
  have exactly : min (ms * 1000 : Int) 1000000000000000 = ms * 1000 := by omega
  exact congrArg (world.us + ·) exactly

/-- A deadline in whole microseconds is up when its milliseconds have passed. -/
theorem World.reached_iff (timeoutMs : Nat) (world later : World) :
    decide (world.us + timeoutMs * 1000 ≤ later.us) = true ↔
      world.milliseconds + timeoutMs ≤ later.milliseconds := by
  rw [decide_eq_true_eq, World.milliseconds, World.milliseconds, ← Int.cast_le (R := ℚ)]
  push_cast
  constructor <;> intro reached <;> linarith

/-- A rehearsed page of which two items are listed at most, with three passes for a repetition. -/
def pairHost : Host World where
  page := { page with
    items := fun selector idSelector attrName =>
      (List.take 2) <$> page.items selector idSelector attrName }
  clock := wholeClock
  settings := { maxRepeatIterations := 3 }

theorem pairHost_ticks : pairHost.Ticks World.milliseconds where
  isPresent _ world := World.look_later _ _ _ world
  isVisible _ world := World.look_later _ _ _ world
  count _ world := World.look_later _ _ _ world
  interval := by decide
  pause := by
    intro world paused went
    rw [World.milliseconds, World.milliseconds, World.pause_passes (by decide) went]
    push_cast
    linarith
  deadline := by
    intro timeoutMs world deadline set later
    cases set
    exact World.reached_iff timeoutMs world later

theorem pairHost_lists : pairHost.ListsAtMost 2 := by
  intro selector idSelector attrName world items listed
  have cut : (pairHost.page.items selector idSelector attrName world).1 =
      (page.items selector idSelector attrName world).1.map (List.take 2) := by
    show ((List.take 2 <$> page.items selector idSelector attrName :
      Action World (List ListItem)) world).1 = _
    simp only [Functor.map, ExceptT.map, ExceptT.mk, bind, StateT.bind]
    rcases page.items selector idSelector attrName world with ⟨fault | all, after⟩ <;> rfl
  rw [cut] at listed
  cases shown : (page.items selector idSelector attrName world).1 with
  | error fault =>
      rw [shown] at listed
      cases listed
  | ok all =>
      rw [shown] at listed
      cases listed
      exact List.length_take_le 2 all

/-- A loop over the list, and a repetition whose goal is out of reach. -/
def pairRecipe : Recipe where
  id := "pair"
  commands := [.forEachItem [.markDone] false,
    .repeatUntil [.scroll .list .down] (.maxScrolls 100)]

def pairStart : Session World :=
  Session.start wholeClock
    { updatedAt := 0, list := "#list", listItem := ".job-card", itemId := some { source := .data } }
    { stage :=
        { items := [{ id := some "a" }, { id := some "b" }, { id := some "c" }]
          visible := 3 } }

end Rehearsal

open Rehearsal in
theorem Session.execute_bounded_on_pairRecipe :
    ∃ result, (Session.execute pairHost pairRecipe pairStart).1 = .ok result ∧
      result.stats.commandsExecuted ≤ 7 ∧
      (Session.execute pairHost pairRecipe pairStart).2.run.stats.commandsExecuted = 7 ∧
      Interp.Ends pairHost (Interp.holds pairHost (.present "#list")) 1000 pairStart := by
  obtain ⟨waits, -, told⟩ :=
    Session.execute_bounded pairHost_lists pairHost_ticks pairRecipe pairStart
  obtain ⟨result, ended⟩ := Session.execute_ok pairHost pairRecipe pairStart rfl
  exact ⟨result, ended, told result ended, by decide +kernel, (waits _ _ _).1⟩

end Gleaner
