import Gleaner.Proofs.Run.Looking
import Mathlib.Algebra.Order.Floor.Div
import Mathlib.Algebra.Order.Ring.Rat
import Mathlib.Tactic.Linarith

/-!
# Waits end

A wait looks, and as long as what it waits for does not hold and the time is not up it pauses
and looks again. On a clock that goes on while it pauses the loop ends, after as many looks as
there are pauses in the time and one more, and the bound on the looks of a wait never decides
its result.
-/

set_option autoImplicit false

namespace Gleaner

variable {σ α β : Type}

/-- What waits need of a clock that shows the time in milliseconds: nothing that a wait looks at
takes time back, the pause between two looks takes the time it is asked for, and a deadline is
up when its time has passed. -/
structure Host.Ticks (host : Host σ) (elapsed : σ → ℚ) : Prop where
  isPresent (selector : String) (world : σ) :
    elapsed world ≤ elapsed (host.page.isPresent selector world).2
  isVisible (selector : String) (world : σ) :
    elapsed world ≤ elapsed (host.page.isVisible selector world).2
  count (selector : String) (world : σ) :
    elapsed world ≤ elapsed (host.page.count selector world).2
  interval : 0 < host.settings.pollIntervalMs
  pause {world paused : σ} :
    host.clock.pause (.ofMs host.settings.pollIntervalMs) world = (.ok (), paused) →
    elapsed world + host.settings.pollIntervalMs ≤ elapsed paused
  deadline {timeoutMs : Nat} {world : σ} {deadline : Deadline σ} :
    host.clock.deadline timeoutMs world = .ok deadline →
    ∀ later, deadline later = true ↔ elapsed world + timeoutMs ≤ elapsed later

/-- What the loop of a wait needs of its host: an interval, pauses that take it, and deadlines
that are up when their time has passed. -/
structure Host.Paces (host : Host σ) (elapsed : σ → ℚ) : Prop where
  interval : 0 < host.settings.pollIntervalMs
  pause {world paused : σ} :
    host.clock.pause (.ofMs host.settings.pollIntervalMs) world = (.ok (), paused) →
    elapsed world + host.settings.pollIntervalMs ≤ elapsed paused
  deadline {timeoutMs : Nat} {world : σ} {deadline : Deadline σ} :
    host.clock.deadline timeoutMs world = .ok deadline →
    ∀ later, deadline later = true ↔ elapsed world + timeoutMs ≤ elapsed later

theorem Host.Ticks.paces {host : Host σ} {elapsed : σ → ℚ} (ticks : host.Ticks elapsed) :
    host.Paces elapsed where
  interval := ticks.interval
  pause := ticks.pause
  deadline := ticks.deadline

namespace Interp

section Loop

variable (host : Host σ) (check : Interp σ Bool) (deadline : Deadline σ)

/-- The loop of a wait, without a bound: so many looks lead from a session to a result and the
session after it. -/
inductive Polls : Nat → Session σ → Except Fault Bool × Session σ → Prop where
  | broke {session after : Session σ} {fault : Fault} :
      check session = (.error fault, after) → Polls 1 session (.error fault, after)
  | held {session after : Session σ} :
      check session = (.ok true, after) → Polls 1 session (.ok true, after)
  | late {session after : Session σ} :
      check session = (.ok false, after) → deadline after.world = true →
      Polls 1 session (.ok false, after)
  | unpaused {session after : Session σ} {paused : σ} {fault : Fault} :
      check session = (.ok false, after) → deadline after.world = false →
      host.clock.pause (.ofMs host.settings.pollIntervalMs) after.world = (.error fault, paused) →
      Polls 1 session (.error fault, { after with world := paused })
  | again {session after : Session σ} {paused : σ} {looks : Nat}
      {ended : Except Fault Bool × Session σ} :
      check session = (.ok false, after) → deadline after.world = false →
      host.clock.pause (.ofMs host.settings.pollIntervalMs) after.world = (.ok (), paused) →
      Polls looks { after with world := paused } ended → Polls (looks + 1) session ended

/-- The most looks in a time: one at its beginning and one after each pause. -/
def mostLooks (timeoutMs : Nat) : Nat :=
  timeoutMs ⌈/⌉ host.settings.pollIntervalMs + 1

/-- A wait that can begin ends: its loop leads to its result. -/
def Ends (timeoutMs : Nat) (session : Session σ) : Prop :=
  ∀ deadline, host.clock.deadline timeoutMs session.world = .ok deadline →
    ∃ looks ≤ mostLooks host timeoutMs,
      Polls host check deadline looks session (poll host check timeoutMs session)

end Loop

theorem pollUntil_succ (host : Host σ) (check : Interp σ Bool) (deadline : Deadline σ) (left : Nat)
    (session : Session σ) :
    pollUntil host check deadline (left + 1) session =
      match check session with
      | (.error fault, after) => (.error fault, after)
      | (.ok true, after) => (.ok true, after)
      | (.ok false, after) =>
          if deadline after.world then (.ok false, after)
          else
            match host.clock.pause (.ofMs host.settings.pollIntervalMs) after.world with
            | (.error fault, paused) => (.error fault, { after with world := paused })
            | (.ok _, paused) =>
                pollUntil host check deadline left { after with world := paused } := by
  rw [pollUntil, bind_apply]
  rcases check session with ⟨fault | _ | _, after⟩
  · rfl
  · simp only [Bool.false_eq_true, ↓reduceIte, bind_apply, get_apply]
    split
    · rfl
    · rw [bind_apply, act_apply]
      rcases host.clock.pause (.ofMs host.settings.pollIntervalMs) after.world with ⟨_ | _, _⟩ <;>
        rfl
  · rfl

/-- The program never takes time back. -/
def Onward (elapsed : σ → ℚ) (prog : Interp σ α) : Prop :=
  ∀ session, elapsed session.world ≤ elapsed (prog session).2.world

namespace Onward

variable {elapsed : σ → ℚ}

theorem pure (value : α) : Onward elapsed (Pure.pure value : Interp σ α) :=
  fun _ => le_rfl

theorem run : Onward elapsed (Interp.run : Interp σ Run) :=
  fun _ => le_rfl

theorem get : Onward elapsed (MonadState.get : Interp σ (Session σ)) :=
  fun _ => le_rfl

theorem liftExcept (result : Except Fault α) : Onward elapsed (liftM result : Interp σ α) := by
  intro session
  rw [liftExcept_apply]

theorem act {action : Action σ α} (onward : ∀ world, elapsed world ≤ elapsed (action world).2) :
    Onward elapsed (Interp.act action) :=
  fun session => onward session.world

theorem bind {first : Interp σ α} {next : α → Interp σ β} (onward : Onward elapsed first)
    (nextOnward : ∀ value, Onward elapsed (next value)) : Onward elapsed (first >>= next) := by
  intro session
  have here := onward session
  rw [bind_apply]
  rcases ran : first session with ⟨fault | value, after⟩
  · rwa [ran] at here
  · rw [ran] at here
    exact here.trans (nextOnward value after)

theorem ite {condition : Prop} [Decidable condition] {first second : Interp σ α}
    (onward : Onward elapsed first) (otherOnward : Onward elapsed second) :
    Onward elapsed (if condition then first else second) := by
  split
  · exact onward
  · exact otherOnward

end Onward

section Ticking

variable {host : Host σ} {elapsed : σ → ℚ}

/-- With as many looks left as there are pauses in the time that is left, and one more, the
loop comes to its end. -/
theorem pollUntil_polls (paces : host.Paces elapsed) {check : Interp σ Bool}
    (onward : Onward elapsed check) {deadline : Deadline σ} {limit : ℚ}
    (reached : ∀ later, deadline later = true ↔ limit ≤ elapsed later) {pauses fuel : Nat}
    (enough : pauses < fuel) (session : Session σ)
    (time : limit ≤ elapsed session.world + pauses * host.settings.pollIntervalMs) :
    ∃ looks ≤ pauses + 1,
      Polls host check deadline looks session (pollUntil host check deadline fuel session) := by
  induction fuel generalizing pauses session with
  | zero => exact absurd enough (Nat.not_lt_zero _)
  | succ fuel ih =>
      have looked := onward session
      rw [pollUntil_succ]
      rcases checked : check session with ⟨fault | _ | _, after⟩
      · exact ⟨1, Nat.le_add_left _ _, .broke checked⟩
      · rw [checked] at looked
        cases up : deadline after.world with
        | true => simpa [up] using ⟨1, Nat.le_add_left _ _, Polls.late checked up⟩
        | false =>
            have early : elapsed after.world < limit := by
              rw [← not_le, ← reached, up]
              exact Bool.false_ne_true
            simp only [up, Bool.false_eq_true, ↓reduceIte]
            rcases paused : host.clock.pause (.ofMs host.settings.pollIntervalMs) after.world with
              ⟨fault | _, world⟩
            · exact ⟨1, Nat.le_add_left _ _, .unpaused checked up paused⟩
            · have later := paces.pause paused
              cases pauses with
              | zero =>
                  -- The time was up before the look, and no look takes it back.
                  simp only [Nat.cast_zero, zero_mul, add_zero] at time
                  linarith
              | succ pauses =>
                  have left : limit ≤ elapsed world + pauses * host.settings.pollIntervalMs := by
                    push_cast at time
                    linarith
                  obtain ⟨looks, few, polls⟩ := ih (Nat.lt_of_succ_lt_succ enough)
                    { after with world } left
                  exact ⟨looks + 1, Nat.succ_le_succ few, .again checked up paused polls⟩
      · exact ⟨1, Nat.le_add_left _ _, .held checked⟩

/-- A wait for anything that does not take time back ends. -/
theorem poll_ends (paces : host.Paces elapsed) {check : Interp σ Bool}
    (onward : Onward elapsed check) (timeoutMs : Nat) (session : Session σ) :
    Ends host check timeoutMs session := by
  intro deadline begun
  have started : poll host check timeoutMs session =
      pollUntil host check deadline (timeoutMs + 2) session := by
    rw [poll, bind_apply, get_apply]
    simp only [bind_apply, liftExcept_apply, begun]
  have pauses : timeoutMs ≤
      timeoutMs ⌈/⌉ host.settings.pollIntervalMs * host.settings.pollIntervalMs := by
    rw [mul_comm]
    exact (ceilDiv_le_iff_le_mul paces.interval).mp le_rfl
  have few : timeoutMs ⌈/⌉ host.settings.pollIntervalMs ≤ timeoutMs :=
    (ceilDiv_le_iff_le_mul paces.interval).mpr (Nat.le_mul_of_pos_left _ paces.interval)
  rw [started]
  refine pollUntil_polls paces onward (paces.deadline begun) (by omega) session ?_
  have enough : (timeoutMs : ℚ) ≤ (timeoutMs ⌈/⌉ host.settings.pollIntervalMs : ℕ) *
      host.settings.pollIntervalMs := mod_cast pauses
  linarith

mutual

theorem holds_onward (ticks : host.Ticks elapsed) (condition : StateCondition) :
    Onward elapsed (holds host condition) := by
  cases condition with
  | present selector => exact .act (ticks.isPresent selector)
  | visible selector => exact .act (ticks.isVisible selector)
  | gone selector => exact (Onward.act (ticks.isPresent selector)).bind fun _ => .pure _
  | countChanged selector =>
      exact (Onward.act (ticks.count selector)).bind fun _ => Onward.run.bind fun _ => .pure _
  | countAtLeast selector least =>
      exact (Onward.act (ticks.count selector)).bind fun _ => .pure _
  | urlContains text => exact Onward.get.bind fun _ => .pure _
  | urlMatches pattern => exact Onward.get.bind fun _ => .liftExcept _
  | allOf parts => exact allHold_onward ticks parts
  | anyOf parts => exact anyHolds_onward ticks parts

theorem allHold_onward (ticks : host.Ticks elapsed) (parts : List StateCondition) :
    Onward elapsed (allHold host parts) := by
  cases parts with
  | nil => exact .pure _
  | cons part rest =>
      exact (holds_onward ticks part).bind fun _ => .ite (allHold_onward ticks rest) (.pure _)

theorem anyHolds_onward (ticks : host.Ticks elapsed) (parts : List StateCondition) :
    Onward elapsed (anyHolds host parts) := by
  cases parts with
  | nil => exact .pure _
  | cons part rest =>
      exact (holds_onward ticks part).bind fun _ => .ite (.pure _) (anyHolds_onward ticks rest)

end

/-- The waits of a run end: those for a condition, and those for the end of one. -/
theorem waits_end (ticks : host.Ticks elapsed) (condition : StateCondition) (timeoutMs : Nat)
    (session : Session σ) :
    Ends host (holds host condition) timeoutMs session ∧
      Ends host (do return !(← holds host condition)) timeoutMs session :=
  ⟨poll_ends ticks.paces (holds_onward ticks condition) timeoutMs session,
    poll_ends ticks.paces ((holds_onward ticks condition).bind fun _ => .pure _) timeoutMs session⟩

end Ticking

end Interp

end Gleaner
