import Gleaner.Proofs.Rehearsal.Complete
import Gleaner.Proofs.Run.Stop
import Mathlib.Data.Finset.Card

/-!
# The state of a run only grows

Whatever a step does and however it ends, what was saved stays in front of what is saved now,
what was done stays done, no counter goes down and a stop is not taken back. The items are
counted right in every state that a run can reach, however often one of them is marked.
-/

set_option autoImplicit false

namespace Gleaner

variable {σ : Type}

/-- As many items are counted as there are ids of processed ones. -/
def Run.Tallied (run : Run) : Prop :=
  run.stats.itemsProcessed = run.processed.toFinset.card

/-- A later state of a run: it has everything that the earlier one has. -/
structure Run.Grows (before after : Run) : Prop where
  collected : before.collected <+: after.collected
  processed : before.processed <+: after.processed
  commandsExecuted : before.stats.commandsExecuted ≤ after.stats.commandsExecuted
  scrollsPerformed : before.stats.scrollsPerformed ≤ after.stats.scrollsPerformed
  bindingFixes : before.stats.bindingFixes ≤ after.stats.bindingFixes
  stopped : before.stopped = true → after.stopped = true
  tallied : before.Tallied → after.Tallied

namespace Run

theorem Grows.refl (run : Run) : run.Grows run :=
  ⟨List.prefix_refl _, List.prefix_refl _, le_rfl, le_rfl, le_rfl, id, id⟩

theorem Grows.trans {first middle last : Run} (grows : first.Grows middle)
    (further : middle.Grows last) : first.Grows last where
  collected := grows.collected.trans further.collected
  processed := grows.processed.trans further.processed
  commandsExecuted := grows.commandsExecuted.trans further.commandsExecuted
  scrollsPerformed := grows.scrollsPerformed.trans further.scrollsPerformed
  bindingFixes := grows.bindingFixes.trans further.bindingFixes
  stopped := further.stopped ∘ grows.stopped
  tallied := further.tallied ∘ grows.tallied

theorem grows_enter (item : CurrentItem) (run : Run) : run.Grows (run.enter item) :=
  { Grows.refl run with }

theorem grows_countCommand (run : Run) : run.Grows run.countCommand :=
  { Grows.refl run with commandsExecuted := Nat.le_succ _ }

theorem grows_countScroll (run : Run) : run.Grows run.countScroll :=
  { Grows.refl run with scrollsPerformed := Nat.le_succ _ }

theorem grows_countFix (run : Run) : run.Grows run.countFix :=
  { Grows.refl run with bindingFixes := Nat.le_succ _ }

theorem grows_keep (most : Option Nat) (item : Item) (run : Run) :
    run.Grows (run.keep most item) :=
  { Grows.refl run with
    collected := List.prefix_append _ _
    stopped := fun stopped => by simp [keep, stopped] }

/-- An id that is marked again is not counted again. -/
theorem grows_markProcessed (id : String) (run : Run) : run.Grows (run.markProcessed id) := by
  unfold markProcessed
  split
  · exact .refl run
  next unmarked =>
    have new : id ∉ run.processed.toFinset := by
      simpa [isProcessed] using unmarked
    refine { Grows.refl run with processed := List.prefix_append _ _, tallied := ?_ }
    intro tallied
    show run.stats.itemsProcessed + 1 = (run.processed ++ [id]).toFinset.card
    have added : (run.processed ++ [id]).toFinset = insert id run.processed.toFinset := by
      ext
      simp
    rw [added, Finset.card_insert_of_notMem new]
    exact congrArg (· + 1) tallied

end Run

/-!
## Commands and what happens between them
-/

theorem Deed.grows {most : Option Nat} {command : Command} {outcome : Outcome}
    {before after : Run} (deed : Deed most command outcome before after) :
    before.Grows after := by
  cases deed with
  | entered item other => exact Run.grows_enter item before
  | scrolled => exact Run.grows_countScroll before
  | scrolledOn => exact Run.grows_countScroll before
  | scrolledTo => exact Run.grows_countScroll before
  | saved current content savedAt => exact Run.grows_keep most _ before
  | marked current found => exact Run.grows_markProcessed current.id before
  | finished => exact { Run.Grows.refl before with stopped := fun _ => rfl }
  | _ => exact { Run.Grows.refl before with }

theorem Session.grows_checkTime (session : Session σ) :
    session.run.Grows session.checkTime.run := by
  rcases session.checkTime_cases with ⟨-, same⟩ | ⟨-, same⟩ <;> rw [same]
  · exact .refl _
  · exact { Run.Grows.refl session.run with stopped := fun _ => rfl }

theorem Move.grows {host : Host σ} {session next : Session σ} (move : Move host session next) :
    session.run.Grows next.run := by
  cases move with
  | looked world => exact .refl _
  | timeChecked => exact session.grows_checkTime
  | itemEntered item => exact { Run.grows_enter item session.run with }
  | bodyLeft => exact { Run.Grows.refl session.run with }
  | passEnded staleRounds => exact { Run.Grows.refl session.run with }
  | repaired changes going accepted =>
      obtain ⟨bindings, rfl⟩ := Session.patch_bindings accepted
      exact Run.grows_countFix session.run
  | concluded durationMs => exact { Run.Grows.refl session.run with }

theorem Command.run_grows_of_plain (host : Host σ) {command : Command}
    (plain : command.isPlain = true) (session : Session σ) :
    session.run.countCommand.Grows (command.run host session).2.run := by
  obtain ⟨run, world, reached, deed⟩ := command.run_deed host plain session
  rw [reached]
  exact deed.grows

theorem Journey.grows {host : Host σ} {session final : Session σ} {news : List (Moment σ)}
    (journey : Journey host session news final) : session.run.Grows final.run := by
  induction journey with
  | done => exact .refl _
  | moved move _ ih => exact move.grows.trans ih
  | ran command plain _ _ ih =>
      exact ((Run.grows_countCommand _).trans (command.run_grows_of_plain host plain _)).trans ih
  | opened command _ _ _ ih => exact (Run.grows_countCommand _).trans ih

/-- A command that runs other commands is counted, and a journey follows, also when it starts
in a stopped run. -/
theorem Command.run_journey (host : Host σ) {command : Command}
    (outer : command.isPlain = false) (session : Session σ) :
    ∃ news, Journey host session.counted news (command.run host session).2 := by
  -- The telling of a body is a journey from any session: it starts nothing in a stopped run.
  cases command with
  | forEachItem body skipProcessed =>
      obtain ⟨news, -, journey⟩ :=
        Tells.forEachItem (@Tells.commands _ host body) skipProcessed session.counted []
      refine ⟨news, ?_⟩
      rw [Command.run, report_apply]
      exact journey
  | choose condition thenBranch elseBranch =>
      obtain ⟨news, -, journey⟩ :=
        Tells.choose (@Tells.commands _ host thenBranch) (Tells.commands elseBranch) condition
          session.counted []
      refine ⟨news, ?_⟩
      rw [Command.run, attempt_snd]
      exact journey
  | repeatUntil body goal =>
      obtain ⟨news, -, journey⟩ :=
        Tells.repeatUntil (@Tells.commands _ host body) goal session.counted []
      refine ⟨news, ?_⟩
      rw [Command.run, report_apply]
      exact journey
  | _ => cases outer

theorem Command.grows_after_count (host : Host σ) (command : Command) (session : Session σ) :
    session.run.countCommand.Grows (command.run host session).2.run := by
  cases plain : command.isPlain with
  | true => exact command.run_grows_of_plain host plain session
  | false =>
      obtain ⟨news, journey⟩ := command.run_journey host plain session
      exact journey.grows

/-!
## Reachable states
-/

/-- The steps that a host may be asked to execute: a command, or one of a kind unknown to it. -/
inductive Step.Asked (host : Host σ) : Step σ → Prop where
  | command (command : Command) : Asked host (command.run host)
  | unknown (kind : String) : Asked host (attemptUnknown kind)

/-- The states of runs: one that begins, and those that any step, any command counted at its
start, or anything between the commands leads to, on whatever page and with whatever bindings. -/
inductive Run.Reachable : Run → Prop where
  | fresh (startedAt : Float) : Reachable { startedAt }
  | counted {run : Run} : Reachable run → Reachable run.countCommand
  | moved {σ : Type} {host : Host σ} {session next : Session σ} :
      Reachable session.run → Move host session next → Reachable next.run
  | stepped {σ : Type} {host : Host σ} {step : Step σ} {session : Session σ} :
      Reachable session.run → Step.Asked host step → Reachable (step session).2.run

theorem Step.Asked.grows {host : Host σ} {step : Step σ} (asked : Step.Asked host step)
    (session : Session σ) : session.run.countCommand.Grows (step session).2.run := by
  cases asked with
  | command command => exact command.grows_after_count host session
  | unknown kind =>
      rw [attemptUnknown, attempt_snd]
      exact .refl _

theorem Run.Reachable.tallied {run : Run} (reachable : run.Reachable) : run.Tallied := by
  induction reachable with
  | fresh startedAt => rfl
  | counted _ ih => exact (Run.grows_countCommand _).tallied ih
  | moved _ move ih => exact move.grows.tallied ih
  | @stepped _ host step session _ asked ih =>
      exact ((Run.grows_countCommand _).trans (asked.grows session)).tallied ih

theorem Journey.reachable {host : Host σ} {session final : Session σ} {news : List (Moment σ)}
    (journey : Journey host session news final) (reachable : session.run.Reachable) :
    ∀ moment ∈ news, moment.session.run.Reachable :=
  (journey.preserves (·.run.Reachable) (fun here move => here.moved move)
    (fun command _ here => here.stepped (@Step.Asked.command _ host command))
    (fun here => here.counted) reachable).1

/-- Whatever a run of a recipe goes through is reachable. -/
theorem Session.execute_reachable (host : Host σ) (recipe : Recipe) (session : Session σ) :
    ∀ moment ∈ (Telling.execute host recipe (session, [])).2.2,
      moment.session.run.Reachable := by
  obtain ⟨news, told, journey⟩ := @Tells.execute _ host recipe session
  have begun : (begin host recipe.limits session).2.run.Reachable := by
    rw [(begin_fresh host session recipe.limits).1]
    exact .fresh _
  rw [told]
  exact List.forall_mem_cons.mpr ⟨begun, journey.reachable begun⟩

/-- Every step from a reachable state, successful or not, leads to a reachable state that the
earlier one grew into: what was saved is a prefix of what is saved, what was done is done, at
least one more command is counted, and the items are counted right before and after. -/
theorem Step.grows_of_reachable (host : Host σ) (step : Step σ) (asked : Step.Asked host step)
    (session : Session σ) (reachable : session.run.Reachable) :
    session.run.Grows (step session).2.run ∧
      session.run.stats.commandsExecuted < (step session).2.run.stats.commandsExecuted ∧
      session.run.stats.itemsProcessed = session.run.processed.toFinset.card ∧
      (step session).2.run.stats.itemsProcessed =
        (step session).2.run.processed.toFinset.card ∧
      (step session).2.run.Reachable := by
  have grows := asked.grows session
  have next := reachable.stepped asked
  refine ⟨(Run.grows_countCommand _).trans grows, ?_, reachable.tallied, next.tallied, next⟩
  exact Nat.lt_of_succ_le grows.commandsExecuted

namespace Rehearsal

/-- A session with two jobs in sight, of which the first one was marked. -/
def firstMarked : Session World :=
  let begun := Session.start clock jobBindings { stage := { threeJobs with visible := 2 } }
  (Command.run (host {} none) .markDone (Command.run (host {} none) (.goToItem .first) begun).2).2

theorem firstMarked_reachable : firstMarked.run.Reachable := by
  have begun : (Session.start clock jobBindings
      { stage := { threeJobs with visible := 2 } }).run.Reachable := .fresh _
  have atFirst := begun.stepped (@Step.Asked.command _ (host {} none) (.goToItem .first))
  exact atFirst.stepped (.command .markDone)

/-- A step that marks both jobs, the first one once more. -/
def markBoth : Step World :=
  Command.run (host {} none) (.forEachItem [.markDone] false)

end Rehearsal

open Rehearsal in
theorem Step.grows_on_firstMarked :
    firstMarked.run.Grows (markBoth firstMarked).2.run ∧ firstMarked.run.processed = ["a"] ∧
      (markBoth firstMarked).2.run.processed = ["a", "b"] ∧
      (markBoth firstMarked).2.run.stats.itemsProcessed = 2 := by
  obtain ⟨grows, -, -, tallied, -⟩ := Step.grows_of_reachable (host {} none) markBoth
    (.command (.forEachItem [.markDone] false)) firstMarked firstMarked_reachable
  have all : (markBoth firstMarked).2.run.processed = ["a", "b"] := by decide +kernel
  refine ⟨grows, by decide +kernel, all, ?_⟩
  rw [tallied, all]
  decide

end Gleaner
