import Gleaner.Proofs.Run.Deed
import Gleaner.Rehearsal.World

/-!
# Failed commands

A plain command does its work on the page first and changes the run last, so that a failure on
the way leaves the run as it was. Two counters are the exception. A command is counted before
anything is done for it, and so is a scroll; whether it succeeds is not known by then. A
repetition that carries on after a failure, and a command that is tried once more after a
repair, therefore start from where the failed command started.
-/

set_option autoImplicit false

namespace Gleaner

variable {σ : Type}

/-- A plain command that may scroll the page. -/
def Command.scrolls : Command → Bool
  | .scroll _ _ | .scrollIfNotEnd _ | .scrollTo _ => true
  | _ => false

/-- The run with one more command counted, and so many scrolls. -/
def Run.spent (scrolls : Nat) (run : Run) : Run :=
  { run with stats :=
    { run.stats with
      commandsExecuted := run.stats.commandsExecuted + 1
      scrollsPerformed := run.stats.scrollsPerformed + scrolls } }

/-- A deed that failed is at most a scroll. -/
theorem Deed.of_failed {most : Option Nat} {command : Command} {error : String}
    {repairable : Bool} {before after : Run}
    (deed : Deed most command (.failed error repairable) before after) :
    after = before ∨ command.scrolls = true ∧ after = before.countScroll := by
  cases deed with
  | failed => exact .inl rfl
  | scrolled => exact .inr ⟨rfl, rfl⟩
  | scrolledOn => exact .inr ⟨rfl, rfl⟩
  | scrolledTo => exact .inr ⟨rfl, rfl⟩

/-- A step that runs no other commands, with whether it scrolls: a plain command, or one of a
kind that the host does not know. -/
inductive Step.Leaf (host : Host σ) : Step σ → Bool → Prop where
  | command (command : Command) :
      command.isPlain = true → Leaf host (command.run host) command.scrolls
  | unknown (kind : String) : Leaf host (attemptUnknown kind) false

/-- A failed step of one command leaves the session as it was, the bindings included: it is
counted, its scroll is counted if it came to one, and the world is what the page made of it. -/
theorem Step.failed_spares_run (host : Host σ) {step : Step σ} {scrolls : Bool}
    (leaf : Step.Leaf host step scrolls) (session : Session σ) {error : String}
    {repairable : Bool} (failed : (step session).1 = .failed error repairable) :
    ∃ world tried, tried ≤ (if scrolls then 1 else 0) ∧
      (step session).2 = { session with run := session.run.spent tried, world } := by
  cases leaf with
  | unknown kind =>
      refine ⟨session.world, 0, Nat.zero_le _, ?_⟩
      rw [attemptUnknown, attempt_snd]
      rfl
  | command command plain =>
      obtain ⟨run, world, reached, deed⟩ := command.run_deed host plain session
      rw [failed] at deed
      rw [reached]
      rcases deed.of_failed with rfl | ⟨scrolls, rfl⟩
      · exact ⟨world, 0, Nat.zero_le _, rfl⟩
      · refine ⟨world, 1, ?_, rfl⟩
        rw [scrolls]
        exact Nat.le_refl 1

namespace Rehearsal

/-- A page that is about to lose its connection, and a run that is at an item. -/
def stuckStart : Session World :=
  { run :=
      { processed := ["a"]
        focus := some (.selector "#list")
        current := some { id := "b", index := 1, ref := .indexed ".job-card" 1 }
        currentIndex := 1
        content := some "Details of b"
        startedAt := 0 }
    bindings := { updatedAt := 0, list := "#list", listItem := ".job-card" }
    world := { faults := [("scroll_to_next_page", [some (.foreign "RuntimeError" "gone")])] } }

end Rehearsal

open Rehearsal in
/-- A scroll that the page fails to do is counted, and nothing else has changed. -/
theorem Step.failed_spares_run_on_stuckStart :
    (Command.run { page, clock } (.scroll .list .down) stuckStart).1 = .failed "gone" false ∧
      (Command.run { page, clock } (.scroll .list .down) stuckStart).2.run.stats.scrollsPerformed =
        1 ∧
      ∃ world tried, tried ≤ 1 ∧
        (Command.run { page, clock } (.scroll .list .down) stuckStart).2 =
          { stuckStart with run := stuckStart.run.spent tried, world } := by
  have failed : (Command.run { page, clock } (.scroll .list .down) stuckStart).1 =
      .failed "gone" false := by
    decide +kernel
  refine ⟨failed, by decide +kernel, ?_⟩
  exact Step.failed_spares_run { page, clock } (.command (.scroll .list .down) rfl) stuckStart
    failed

end Gleaner
