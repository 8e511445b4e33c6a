import Gleaner.Proofs.Run.Failures
import Gleaner.Proofs.Run.Flow
import Gleaner.Proofs.Run.Journey
import Mathlib.Algebra.Ring.Nat

/-!
# The scrolls of a run

The run counts the scrolls that its commands try, whether or not the page moves. So the count
goes up on a journey by the scrolls that are tried on it, which the chronicle tells by itself.
-/

set_option autoImplicit false

namespace Gleaner

variable {σ : Type}

/-- How many scrolls a command tries where it starts, whether or not they succeed. A scroll on
is tried unless the page is at its end, or cannot tell. -/
def Command.scrollsTried (host : Host σ) (command : Command) (session : Session σ) : Nat :=
  match command with
  | .scroll _ _ => 1
  | .scrollTo _ => 1
  | .scrollIfNotEnd _ =>
      match (Interp.atPageEnd host session.counted).1 with
      | .ok false => 1
      | _ => 0
  | _ => 0

def Moment.scrollsTried (host : Host σ) (moment : Moment σ) : Nat :=
  match moment.starting with
  | some command => command.scrollsTried host moment.session
  | none => 0

theorem Moment.scrollsTried_quiet (host : Host σ) (session : Session σ) :
    Moment.scrollsTried host { session := session } = 0 := rfl

theorem Moment.scrollsTried_starting (host : Host σ) (command : Command) (session : Session σ) :
    Moment.scrollsTried host { session, starting := some command } =
      command.scrollsTried host session := rfl

theorem Move.scrollsPerformed {host : Host σ} {session next : Session σ}
    (move : Move host session next) :
    next.run.stats.scrollsPerformed = session.run.stats.scrollsPerformed := by
  cases move with
  | timeChecked =>
      rcases session.checkTime_cases with ⟨-, same⟩ | ⟨-, same⟩ <;> rw [same]
  | repaired changes going accepted =>
      obtain ⟨bindings, rfl⟩ := Session.patch_bindings accepted
      rfl
  | _ => rfl

/-- Only the commands that scroll count scrolls. -/
theorem Deed.scrollsPerformed {most : Option Nat} {command : Command} {outcome : Outcome}
    {before after : Run} (deed : Deed most command outcome before after)
    (still : command.scrolls = false) :
    after.stats.scrollsPerformed = before.stats.scrollsPerformed := by
  cases deed with
  | scrolled => cases still
  | scrolledOn => cases still
  | scrolledTo => cases still
  | marked current found =>
      obtain ⟨_, _, marked⟩ := before.markProcessed_ledger current.id
      rw [marked]
  | _ => rfl

theorem Command.scrollsTried_of_still (host : Host σ) {command : Command}
    (still : command.scrolls = false) (session : Session σ) :
    command.scrollsTried host session = 0 := by
  cases command <;> first | rfl | cases still

/-- A scroll on is tried unless the page is at its end, or cannot tell. -/
theorem Interp.scrollIfNotEnd_run (host : Host σ) (target : ScrollTarget) (session : Session σ) :
    (scrollIfNotEnd host target session).2.run.stats.scrollsPerformed =
      session.run.stats.scrollsPerformed +
        match (atPageEnd host session).1 with
        | .ok false => 1
        | _ => 0 := by
  obtain ⟨world, looked⟩ := atPageEnd_looks host session
  rw [scrollIfNotEnd, bind_apply]
  rcases ended : atPageEnd host session with ⟨fault | _ | _, after⟩
  · rw [ended] at looked
    rw [show after = { session with world } from looked]
    rfl
  · rw [ended] at looked
    have same : after.run = session.run := congrArg (·.run) looked
    obtain ⟨later, scrolled⟩ := scroll_run host target .down after
    simp only [Bool.false_eq_true, ↓reduceIte, bind_apply, discard_apply]
    rcases ran : scroll host target .down after with ⟨fault | report, final⟩
    all_goals
      rw [ran] at scrolled
      rw [show final = _ from scrolled, same]
      rfl
  · rw [ended] at looked
    rw [show after = { session with world } from looked]
    rfl

theorem Command.run_scrolls (host : Host σ) {command : Command} (plain : command.isPlain = true)
    (session : Session σ) :
    (command.run host session).2.run.stats.scrollsPerformed =
      session.run.stats.scrollsPerformed + command.scrollsTried host session := by
  cases scrolls : command.scrolls with
  | false =>
      obtain ⟨run, world, reached, deed⟩ := command.run_deed host plain session
      rw [reached, command.scrollsTried_of_still host scrolls]
      exact deed.scrollsPerformed scrolls
  | true =>
      cases command with
      | scroll target direction =>
          obtain ⟨world, scrolled⟩ := Interp.scroll_run host target direction session.counted
          rw [Command.run, report_apply, scrolled]
          rfl
      | scrollIfNotEnd target =>
          rw [Command.run, report_apply]
          exact Interp.scrollIfNotEnd_run host target session.counted
      | scrollTo percent =>
          obtain ⟨world, acted⟩ := Interp.acting_looks (host.page.scrollTo percent) .done
            { session.counted with run := session.counted.run.countScroll }
          rw [Command.run, report_apply]
          exact congrArg (·.run.stats.scrollsPerformed) acted
      | _ => cases scrolls

/-- The chronicle of a journey tells how many scrolls were tried on it. -/
theorem Journey.scrolls {host : Host σ} {session final : Session σ} {news : List (Moment σ)}
    (journey : Journey host session news final) :
    final.run.stats.scrollsPerformed =
      session.run.stats.scrollsPerformed + (news.map (Moment.scrollsTried host)).sum := by
  induction journey with
  | done => rfl
  | moved move _ ih =>
      rw [ih, move.scrollsPerformed, List.map_cons, List.sum_cons, Moment.scrollsTried_quiet,
        Nat.zero_add]
  | ran command plain _ _ ih =>
      rw [ih, command.run_scrolls host plain, List.map_cons, List.map_cons, List.sum_cons,
        List.sum_cons, Moment.scrollsTried_quiet, Moment.scrollsTried_starting, Nat.zero_add,
        Nat.add_assoc]
  | opened command outer _ _ ih =>
      have still : command.scrolls = false := by
        cases command <;> first | rfl | cases outer
      rw [ih, List.map_cons, List.map_cons, List.sum_cons, List.sum_cons,
        Moment.scrollsTried_quiet, Moment.scrollsTried_starting,
        command.scrollsTried_of_still host still, Nat.zero_add, Nat.zero_add]
      rfl

end Gleaner
