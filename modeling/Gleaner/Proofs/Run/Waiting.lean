import Gleaner.Proofs.Run.Extracting
import Gleaner.Proofs.Run.Work

/-!
# Waits look by look

On a clock whose pauses take exactly the time they are asked for a wait is a row of looks with a
pause between any two of them. All looks but the last found that the condition did not hold; what
the last one found is the result, and if that is no either the time was up when it was over. So
no wait misses what holds when its time is up.
-/

set_option autoImplicit false

namespace Gleaner

variable {σ : Type}

/-- The clock of the host, which shows the time in milliseconds, is exact: the pause between two
looks takes the time it is asked for, and a deadline is up when its time has passed. -/
structure Host.Exact (host : Host σ) (elapsed : σ → ℚ) : Prop where
  interval : 0 < host.settings.pollIntervalMs
  pause (world : σ) : ∃ paused,
    host.clock.pause (.ofMs host.settings.pollIntervalMs) world = (.ok (), paused) ∧
      elapsed paused = elapsed world + host.settings.pollIntervalMs
  deadline (timeoutMs : Nat) (world : σ) : ∃ deadline,
    host.clock.deadline timeoutMs world = .ok deadline ∧
      ∀ later, deadline later = true ↔ elapsed world + timeoutMs ≤ elapsed later

theorem Host.Exact.paces {host : Host σ} {elapsed : σ → ℚ} (exact : host.Exact elapsed) :
    host.Paces elapsed where
  interval := exact.interval
  pause := by
    intro world paused went
    obtain ⟨later, also, passed⟩ := exact.pause world
    cases went.symm.trans also
    exact passed.ge
  deadline := by
    intro timeoutMs world deadline set
    obtain ⟨limit, also, reached⟩ := exact.deadline timeoutMs world
    cases set.symm.trans also
    exact reached

namespace Interp

/-- A look of a wait: the session it begins in, what it finds, and the session after it. -/
structure Look (σ : Type) where
  before : Session σ
  found : Except Fault Bool
  after : Session σ

/-- The looks of a wait from a session on. All but the last are in vain, and each of these is
followed by a pause and by the next one. -/
inductive Looked (host : Host σ) (check : Interp σ Bool) :
    Session σ → List (Look σ) → Look σ → Prop where
  | last {session after : Session σ} {found : Except Fault Bool} :
      check session = (found, after) → Looked host check session [] ⟨session, found, after⟩
  | again {session after : Session σ} {paused : σ} {looks : List (Look σ)} {last : Look σ} :
      check session = (.ok false, after) →
      host.clock.pause (.ofMs host.settings.pollIntervalMs) after.world = (.ok (), paused) →
      Looked host check { after with world := paused } looks last →
      Looked host check session (⟨session, .ok false, after⟩ :: looks) last

/-- How a wait goes: its looks are no more than fit the time, all but the last are in vain, and if
the last one is so too the time is up when it is over. -/
structure Waited (host : Host σ) (elapsed : σ → ℚ) (check : Interp σ Bool) (timeoutMs : Nat)
    (session : Session σ) (looks : List (Look σ)) (last : Look σ) : Prop where
  looked : Looked host check session looks last
  few : looks.length + 1 ≤ timeoutMs ⌈/⌉ host.settings.pollIntervalMs + 1
  vain : ∀ look ∈ looks, look.found = .ok false
  late : last.found = .ok false → elapsed session.world + timeoutMs ≤ elapsed last.after.world

/-- The looks take no time, and each tells what is so at its time. -/
def Tell (elapsed : σ → ℚ) (truth : ℚ → Bool) (looks : List (Look σ)) : Prop :=
  ∀ look ∈ looks, look.found = .ok (truth (elapsed look.before.world)) ∧
    elapsed look.after.world = elapsed look.before.world

/-- The fault of a wait for a condition that did not come to hold. -/
def timedOut (host : Host σ) (condition : StateCondition) : Fault :=
  .waitTimeout ("Timeout waiting for condition: " ++ condition.toJson.write)
    host.settings.waitTimeoutMs (some condition.toJson.write)

section

variable {host : Host σ} {elapsed : σ → ℚ} {check : Interp σ Bool}

theorem Looked.vain {session : Session σ} {looks : List (Look σ)} {last : Look σ}
    (looked : Looked host check session looks last) : ∀ look ∈ looks, look.found = .ok false := by
  induction looked with
  | last => exact List.forall_mem_nil _
  | again _ _ _ ih => exact List.forall_mem_cons.mpr ⟨rfl, ih⟩

/-- Every look runs the check. -/
theorem Looked.checked {session : Session σ} {looks : List (Look σ)} {last : Look σ}
    (looked : Looked host check session looks last) :
    ∀ look ∈ looks ++ [last], check look.before = (look.found, look.after) := by
  induction looked with
  | last checked => exact List.forall_mem_singleton.mpr checked
  | again checked _ _ ih => exact List.forall_mem_cons.mpr ⟨checked, ih⟩

/-- Where no pause fails the loop of a wait is told by its looks. -/
theorem Polls.looked (exact : host.Exact elapsed) {deadline : Deadline σ} {count : Nat}
    {session : Session σ} {ended : Except Fault Bool × Session σ}
    (polls : Polls host check deadline count session ended) :
    ∃ looks last, Looked host check session looks last ∧ looks.length + 1 = count ∧
      ended = (last.found, last.after) ∧
      (last.found = .ok false → deadline last.after.world = true) := by
  induction polls with
  | broke checked => exact ⟨[], _, .last checked, rfl, rfl, nofun⟩
  | held checked => exact ⟨[], _, .last checked, rfl, rfl, nofun⟩
  | late checked up => exact ⟨[], _, .last checked, rfl, rfl, fun _ => up⟩
  | unpaused _ _ failed =>
      obtain ⟨paused, went, -⟩ := exact.pause _
      cases failed.symm.trans went
  | again checked _ paused _ ih =>
      obtain ⟨looks, last, looked, rfl, same, late⟩ := ih
      exact ⟨_ :: looks, last, .again checked paused looked, rfl, same, late⟩

theorem poll_waited (exact : host.Exact elapsed) (onward : Onward elapsed check) (timeoutMs : Nat)
    (session : Session σ) :
    ∃ looks last, Waited host elapsed check timeoutMs session looks last ∧
      poll host check timeoutMs session = (last.found, last.after) := by
  obtain ⟨deadline, begun, reached⟩ := exact.deadline timeoutMs session.world
  obtain ⟨count, few, polls⟩ := poll_ends exact.paces onward timeoutMs session deadline begun
  obtain ⟨looks, last, looked, rfl, ended, late⟩ := polls.looked exact
  exact ⟨looks, last, ⟨looked, few, looked.vain, fun none => (reached _).mp (late none)⟩, ended⟩

theorem waitUntil_apply (host : Host σ) (condition : StateCondition) (session : Session σ) :
    waitUntil host condition session =
      match poll host (holds host condition) host.settings.waitTimeoutMs session with
      | (.ok true, after) => (.ok (), after)
      | (.ok false, after) => (.error (timedOut host condition), after)
      | (.error fault, after) => (.error fault, after) := by
  rw [waitUntil, bind_apply]
  rcases poll host (holds host condition) host.settings.waitTimeoutMs session with
    ⟨fault | _ | _, after⟩ <;> rfl

/-- If what holds at the end of the time goes on to hold, the last look finds it. -/
theorem Waited.found {timeoutMs : Nat} {session : Session σ} {looks : List (Look σ)}
    {last : Look σ} (waited : Waited host elapsed check timeoutMs session looks last)
    {truth : ℚ → Bool} (tell : Tell elapsed truth (looks ++ [last])) {time : ℚ}
    (soon : time ≤ elapsed session.world + timeoutMs)
    (stays : ∀ later, time ≤ later → truth later = true) : last.found = .ok true := by
  obtain ⟨told, instant⟩ := tell last (List.mem_append_right _ List.mem_cons_self)
  cases found : truth (elapsed last.before.world) with
  | true => rw [told, found]
  | false =>
      rw [found] at told
      have late := waited.late told
      rw [instant] at late
      rw [stays _ (soon.trans late)] at found
      cases found

end

/-- Waits on an exact clock end, after a look at the beginning and one after each pause that fits
the time, however long looks take and whatever they find. The result of a wait is what its last
look found, which is the first one not in vain; the wait is in vain only if the last look is, and
is over when the time is up. A wait for a condition fails with its timeout if it is in vain, and so
it does not if looks take no time and the condition holds from some time on that is not after the
end. -/
theorem waits_exact {host : Host σ} {elapsed : σ → ℚ} (exact : host.Exact elapsed) :
    (∀ check : Interp σ Bool, Onward elapsed check → ∀ timeoutMs session,
      ∃ looks last, Waited host elapsed check timeoutMs session looks last ∧
        poll host check timeoutMs session = (last.found, last.after)) ∧
    ∀ condition, Onward elapsed (holds host condition) → ∀ session,
      ∃ looks last,
        Waited host elapsed (holds host condition) host.settings.waitTimeoutMs session looks last ∧
        waitUntil host condition session =
          (match last.found with
          | .ok true => .ok ()
          | .ok false => .error (timedOut host condition)
          | .error fault => .error fault, last.after) ∧
        ∀ truth, Tell elapsed truth (looks ++ [last]) →
          ∀ time ≤ elapsed session.world + host.settings.waitTimeoutMs,
            (∀ later, time ≤ later → truth later = true) →
            (waitUntil host condition session).1 = .ok () := by
  refine ⟨fun check onward => poll_waited exact onward, fun condition onward session => ?_⟩
  obtain ⟨looks, last, waited, ended⟩ :=
    poll_waited exact onward host.settings.waitTimeoutMs session
  have applied := waitUntil_apply host condition session
  rw [ended] at applied
  refine ⟨looks, last, waited, ?_, fun truth tell time soon stays => ?_⟩
  · rw [applied]
    rcases last.found with fault | _ | _ <;> rfl
  · rw [applied, waited.found tell soon stays]

end Interp

namespace Rehearsal

/-- A page on which everything is there from half a second on, which is also when waits end; looks
are three tenths of a second apart. -/
def halfHost : Host World where
  page := { page with isPresent := fun _ world => (.ok (500000 ≤ world.us), world) }
  clock := wholeClock
  settings := { pollIntervalMs := 300, waitTimeoutMs := 500 }

theorem halfHost_exact : halfHost.Exact World.milliseconds where
  interval := by decide
  pause := by
    intro world
    obtain ⟨paused, went⟩ := clock_rests 300 world _ rfl
    refine ⟨paused, went, ?_⟩
    rw [World.milliseconds, World.milliseconds, World.pause_passes (by decide) went]
    push_cast
    exact (add_div _ _ _).trans (by norm_num [halfHost])
  deadline timeoutMs world := ⟨_, rfl, World.reached_iff timeoutMs world⟩

def halfStart : Session World :=
  Session.start wholeClock { updatedAt := 0, list := "#list" } {}

/-- From half a second on, in milliseconds. -/
def fromHalf (time : ℚ) : Bool :=
  500 ≤ time

end Rehearsal

open Rehearsal in
/-- The list is found by the look after the time is up, a tenth of a second later. -/
theorem Interp.waits_exact_on_halfHost :
    (∃ looks last, Waited halfHost World.milliseconds (holds halfHost (.present "#list")) 500
        halfStart looks last ∧ Tell World.milliseconds fromHalf (looks ++ [last])) ∧
      (waitUntil halfHost (.present "#list") halfStart).1 = .ok () ∧
      (waitUntil halfHost (.present "#list") halfStart).2.world.us = 600000 := by
  have onward : Onward World.milliseconds (holds halfHost (.present "#list")) :=
    .act fun _ => le_rfl
  obtain ⟨looks, last, waited, -, found⟩ :=
    (waits_exact halfHost_exact).2 (.present "#list") onward halfStart
  have tell : Tell World.milliseconds fromHalf (looks ++ [last]) := by
    intro look among
    have checked := waited.looked.checked look among
    have there : (500000 ≤ look.before.world.us) ↔ 500 ≤ look.before.world.milliseconds := by
      rw [World.milliseconds, le_div_iff₀ (by decide), ← Int.cast_le (R := ℚ)]
      norm_num
    obtain ⟨told, same⟩ : .ok (decide (500000 ≤ look.before.world.us)) = look.found ∧
        look.before = look.after := Prod.mk.inj checked
    rw [← told, ← same]
    exact ⟨congrArg Except.ok (decide_eq_decide.mpr there), rfl⟩
  refine ⟨⟨looks, last, waited, tell⟩, ?_, by decide +kernel⟩
  refine found fromHalf tell 500 ?_ fun later reached => decide_eq_true reached
  norm_num [halfHost, halfStart, Session.start, World.milliseconds]

end Gleaner
