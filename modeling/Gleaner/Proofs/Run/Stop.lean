import Gleaner.Proofs.Run.Flow
import Gleaner.Proofs.Run.Journey

/-!
# A stop is final

Once a run is stopped, by a command, by the save that reaches the bound or by its deadline, it
stays stopped: no command starts any more, and what was saved, the number of commands and the
bindings stay as they are. A run with a bound therefore never saves more than that.
-/

set_option autoImplicit false

namespace Gleaner

variable {σ : Type}

/-- The run was stopped in the earlier session and is as it was in the later one. -/
structure Session.StaysStopped (earlier later : Session σ) : Prop where
  stopped : later.run.stopped = true
  commandsExecuted :
    later.run.stats.commandsExecuted = earlier.run.stats.commandsExecuted
  collected : later.run.collected = earlier.run.collected
  bindings : later.bindings = earlier.bindings

theorem Session.StaysStopped.trans {first middle last : Session σ}
    (stays : first.StaysStopped middle) (further : middle.StaysStopped last) :
    first.StaysStopped last where
  stopped := further.stopped
  commandsExecuted := further.commandsExecuted.trans stays.commandsExecuted
  collected := further.collected.trans stays.collected
  bindings := further.bindings.trans stays.bindings

/-- Fewer items than the bound are saved, or the bound is reached and the run is stopped. -/
def Session.Bounded (most : Nat) (session : Session σ) : Prop :=
  session.maxItems = some most ∧
    (session.run.collected.length < most ∨
      session.run.stopped = true ∧ session.run.collected.length = most)

/-!
## One deed
-/

/-- A deed is no start of a command and no fix. -/
theorem Deed.counters {most : Option Nat} {command : Command} {outcome : Outcome}
    {before after : Run} (deed : Deed most command outcome before after) :
    after.stats.commandsExecuted = before.stats.commandsExecuted ∧
      after.stats.bindingFixes = before.stats.bindingFixes := by
  cases deed with
  | marked current found =>
      obtain ⟨_, _, marked⟩ := before.markProcessed_ledger current.id
      rw [marked]
      exact ⟨rfl, rfl⟩
  | _ => exact ⟨rfl, rfl⟩

/-- A deed leaves what is saved and may stop the run, or it saves one item. -/
theorem Deed.collected {most : Option Nat} {command : Command} {outcome : Outcome}
    {before after : Run} (deed : Deed most command outcome before after) :
    after.collected = before.collected ∨ ∃ item, after = before.keep most item := by
  cases deed with
  | saved current content savedAt => exact .inr ⟨_, rfl⟩
  | marked current found =>
      obtain ⟨_, _, marked⟩ := before.markProcessed_ledger current.id
      rw [marked]
      exact .inl rfl
  | _ => exact .inl rfl

/-!
## One step of a journey
-/

namespace Move

variable {host : Host σ} {session next : Session σ}

theorem staysStopped (move : Move host session next) (stopped : session.run.stopped = true) :
    session.StaysStopped next := by
  cases move with
  | timeChecked =>
      rcases session.checkTime_cases with ⟨-, same⟩ | ⟨⟨going, -⟩, -⟩
      · rw [same]
        exact ⟨stopped, rfl, rfl, rfl⟩
      · exact absurd stopped (Bool.eq_false_iff.mp going)
  | repaired changes going accepted => exact absurd stopped (Bool.eq_false_iff.mp going)
  | _ => exact ⟨stopped, rfl, rfl, rfl⟩

theorem checkTime_collected (session : Session σ) :
    session.checkTime.run.collected = session.run.collected ∧
      session.checkTime.run.stats = session.run.stats ∧
      session.checkTime.maxItems = session.maxItems := by
  rcases session.checkTime_cases with ⟨-, same⟩ | ⟨-, same⟩
  all_goals
    rw [same]
    exact ⟨rfl, rfl, rfl⟩

theorem collected (move : Move host session next) :
    next.run.collected = session.run.collected ∧ next.maxItems = session.maxItems := by
  cases move with
  | timeChecked =>
      obtain ⟨collected, _, maxItems⟩ := checkTime_collected session
      exact ⟨collected, maxItems⟩
  | repaired changes going accepted =>
      obtain ⟨bindings, rfl⟩ := Session.patch_bindings accepted
      exact ⟨rfl, rfl⟩
  | _ => exact ⟨rfl, rfl⟩

theorem commandsExecuted (move : Move host session next) :
    next.run.stats.commandsExecuted = session.run.stats.commandsExecuted := by
  cases move with
  | timeChecked => rw [(checkTime_collected session).2.1]
  | repaired changes going accepted =>
      obtain ⟨bindings, rfl⟩ := Session.patch_bindings accepted
      rfl
  | _ => rfl

theorem bounded {most : Nat} (move : Move host session next) (bounded : session.Bounded most) :
    next.Bounded most := by
  obtain ⟨collected, maxItems⟩ := move.collected
  refine ⟨maxItems.trans bounded.1, ?_⟩
  rw [collected]
  rcases bounded.2 with room | ⟨stopped, full⟩
  · exact .inl room
  · exact .inr ⟨(move.staysStopped stopped).stopped, full⟩

end Move

theorem Command.run_commandsExecuted (host : Host σ) {command : Command}
    (plain : command.isPlain = true) (session : Session σ) :
    (command.run host session).2.run.stats.commandsExecuted =
      session.run.stats.commandsExecuted + 1 := by
  obtain ⟨run, world, reached, deed⟩ := command.run_deed host plain session
  rw [reached]
  exact deed.counters.1

/-- A plain command that starts while the run goes on keeps to the bound. -/
theorem Command.run_bounded (host : Host σ) {command : Command} (plain : command.isPlain = true)
    {most : Nat} {session : Session σ} (going : session.run.stopped = false)
    (bounded : session.Bounded most) : (command.run host session).2.Bounded most := by
  obtain ⟨run, world, reached, deed⟩ := command.run_deed host plain session
  rw [reached]
  refine ⟨bounded.1, ?_⟩
  have room : session.run.collected.length < most := by
    rcases bounded.2 with room | ⟨stopped, _⟩
    · exact room
    · exact absurd stopped (Bool.eq_false_iff.mp going)
  rcases deed.collected with same | ⟨item, rfl⟩
  · exact .inl (same ▸ room)
  · rw [bounded.1]
    rcases Run.keep_bound item going room with ⟨_, room⟩ | full
    · exact .inl room
    · exact .inr full

/-!
## Journeys
-/

namespace Journey

variable {host : Host σ} {session final : Session σ} {news : List (Moment σ)}

/-- On the way from a stopped session nothing starts and nothing changes. -/
theorem staysStopped (journey : Journey host session news final)
    (stopped : session.run.stopped = true) :
    ∀ moment ∈ news, moment.starting = none ∧ session.StaysStopped moment.session := by
  induction journey with
  | done => exact fun moment found => absurd found List.not_mem_nil
  | moved move _ ih =>
      have stays := move.staysStopped stopped
      refine List.forall_mem_cons.mpr ⟨⟨rfl, stays⟩, fun moment found => ?_⟩
      obtain ⟨nothing, further⟩ := ih stays.stopped moment found
      exact ⟨nothing, stays.trans further⟩
  | ran command plain going _ _ => exact absurd stopped (Bool.eq_false_iff.mp going)
  | opened command _ going _ _ => exact absurd stopped (Bool.eq_false_iff.mp going)

/-- Once a moment has the run stopped, nothing starts and nothing changes after it. -/
theorem stop_final (journey : Journey host session news final) :
    news.Pairwise fun earlier later => earlier.session.run.stopped = true →
      later.starting = none ∧ earlier.session.StaysStopped later.session := by
  induction journey with
  | done => exact .nil
  | moved _ further ih =>
      exact .cons (fun later found stopped => further.staysStopped stopped later found) ih
  | ran command plain going further ih =>
      refine .cons (fun later _ stopped => absurd stopped (Bool.eq_false_iff.mp going)) (.cons ?_ ih)
      exact fun later found stopped => further.staysStopped stopped later found
  | opened command _ going further ih =>
      refine .cons (fun later _ stopped => absurd stopped (Bool.eq_false_iff.mp going)) (.cons ?_ ih)
      exact fun later found stopped => further.staysStopped stopped later found

/-- Commands start only while the run goes on. -/
theorem starting_going (journey : Journey host session news final) :
    ∀ moment ∈ news, moment.starting.isSome = true → moment.session.run.stopped = false := by
  have nothing (after : Session σ) : (none : Option Command).isSome = true →
      after.run.stopped = false := fun starts => absurd starts Bool.false_ne_true
  induction journey with
  | done => exact fun moment found => absurd found List.not_mem_nil
  | moved _ _ ih => exact List.forall_mem_cons.mpr ⟨nothing _, ih⟩
  | ran command plain going _ ih =>
      exact List.forall_mem_cons.mpr ⟨fun _ => going, List.forall_mem_cons.mpr ⟨nothing _, ih⟩⟩
  | opened command _ going _ ih =>
      exact List.forall_mem_cons.mpr ⟨fun _ => going, List.forall_mem_cons.mpr ⟨nothing _, ih⟩⟩

/-- Every start is counted, and nothing else is. -/
theorem commandsExecuted (journey : Journey host session news final) :
    final.run.stats.commandsExecuted =
      session.run.stats.commandsExecuted + news.countP (·.starting.isSome) := by
  induction journey with
  | done => rfl
  | moved move _ ih =>
      rw [ih, move.commandsExecuted]
      simp
  | ran command plain _ _ ih =>
      rw [ih, Command.run_commandsExecuted host plain]
      simp
      omega
  | @opened session _ _ command _ _ _ ih =>
      have counted : session.run.countCommand.stats.commandsExecuted =
          session.run.stats.commandsExecuted + 1 := rfl
      rw [ih]
      simp [counted]
      omega

theorem bounded {most : Nat} (journey : Journey host session news final)
    (bounded : session.Bounded most) : final.Bounded most := by
  induction journey with
  | done => exact bounded
  | moved move _ ih => exact ih (move.bounded bounded)
  | ran command plain going _ ih => exact ih (command.run_bounded host plain going bounded)
  | opened command _ going _ ih => exact ih bounded

theorem getLast (journey : Journey host session news final) (first : Moment σ)
    (begins : first.session = session) :
    ((first :: news).getLast (List.cons_ne_nil _ _)).session = final := by
  induction journey generalizing first with
  | done => exact begins
  | moved _ _ ih => exact ih _ rfl
  | ran command _ _ _ ih => exact ih _ rfl
  | opened command _ _ _ ih => exact ih _ rfl

end Journey

/-!
## Runs of recipes
-/

namespace Session

variable (host : Host σ) (recipe : Recipe) (session : Session σ)

/-- A run with a chronicle is the run, its chronicle counts every start, and no command starts
and nothing changes once the run is stopped; so a run with a bound never saves more. -/
theorem execute_stops_for_good :
    ∃ result final moments,
      Telling.execute host recipe (session, []) = (result, final, moments) ∧
      execute host recipe session = (result, final) ∧
      moments.getLast?.map (·.session) = some final ∧
      final.run.stats.commandsExecuted = moments.countP (·.starting.isSome) ∧
      (∀ moment ∈ moments, moment.starting.isSome = true →
        moment.session.run.stopped = false) ∧
      (moments.Pairwise fun earlier later => earlier.session.run.stopped = true →
        later.starting = none ∧ earlier.session.StaysStopped later.session) ∧
      ∀ most report, recipe.limits.maxItems = some most → most ≠ 0 → result = .ok report →
        report.items.length ≤ most := by
  obtain ⟨news, told, journey⟩ := @Tells.execute _ host recipe session
  obtain ⟨fresh, bound⟩ := begin_fresh host session recipe.limits
  refine ⟨_, _, _, told, rfl, ?_, ?_, ?_, ?_, ?_⟩
  · rw [List.getLast?_eq_some_getLast (List.cons_ne_nil _ _), Option.map_some,
      journey.getLast _ rfl]
  · rw [journey.commandsExecuted, fresh]
    simp
  · exact List.forall_mem_cons.mpr
      ⟨fun starts => absurd starts Bool.false_ne_true, journey.starting_going⟩
  · exact .cons (fun later found stopped => journey.staysStopped stopped later found)
      journey.stop_final
  · intro most report limited positive ended
    have bounded : (begin host recipe.limits session).2.Bounded most := by
      refine ⟨bound.trans limited, .inl ?_⟩
      rw [fresh]
      exact Nat.pos_of_ne_zero positive
    rw [(execute_result host recipe session ended).1]
    rcases (journey.bounded bounded).2 with room | ⟨_, full⟩
    · exact Nat.le_of_lt room
    · exact Nat.le_of_eq full

end Session

end Gleaner
