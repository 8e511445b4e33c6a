import Gleaner.Proofs.Decimal.Order
import Gleaner.Proofs.Harvest.Beside

/-!
# What trying again comes to

A task is tried until an outcome settles the matter or no try is left. What happens meanwhile
follows from the faults that are tried again: each one is told, and then there is one pause, for as
long as the fault asks or else for the delay, which grows from fault to fault. What a fault asks
for and what has grown is cut to the longest delay, but the first delay is not.
-/

set_option autoImplicit false

namespace Gleaner

variable {α : Type}

theorem Action.liftExcept_bind_apply {σ β : Type} (result : Except Fault α)
    (next : α → Action σ β) (world : σ) :
    (liftM result >>= next : Action σ β) world =
      match result with
      | .error fault => (.error fault, world)
      | .ok value => next value world := by
  cases result <;> rfl

/-!
## Numbers in range
-/

/-- A number of milliseconds that a pause can last. -/
structure Number.Lasts (ms : Number) : Prop where
  finite : ms.truncate?.isSome
  seconds : ∃ seconds, (Span.milliseconds ms).toSeconds = .ok seconds

namespace Number

theorem toFloat?_eq {n : Number} {x : Float} (fits : n.toFloat? = some x) : x = n.toFloat := by
  cases n with
  | float y =>
      cases fits
      rfl
  | int n =>
      unfold toFloat? at fits
      dsimp only at fits
      split at fits
      · cases fits
      · cases fits
        rfl

theorem product?_eq {a b c : Number} (fits : a.product? b = some c) : c = a * b := by
  have mixed (a b : Number) (fits : (do return .float ((← a.toFloat?) * (← b.toFloat?))) = some c) :
      c = .float (a.toFloat * b.toFloat) := by
    simp only [Option.pure_def, Option.bind_eq_bind, Option.bind_eq_some_iff] at fits
    obtain ⟨x, first, y, second, made⟩ := fits
    rw [← toFloat?_eq first, ← toFloat?_eq second]
    exact (Option.some.inj made).symm
  cases a <;> cases b
  · cases fits
    rfl
  all_goals exact mixed _ _ fits

end Number

/-!
## What is seen
-/

/-- What can be seen of trying again. -/
inductive RetryEvent where
  | called
  | told (attempt : Nat) (fault : Fault)
  | paused (span : Span)

namespace RetryEvent

def isCall : RetryEvent → Bool
  | .called => true
  | _ => false

def pause? : RetryEvent → Option Span
  | .paused span => some span
  | _ => none

theorem countP_again {log : List RetryEvent} {retries : Nat}
    (counted : log.countP isCall = retries) (attempt : Nat) (fault : Fault) (span : Span) :
    (log ++ [called, told attempt fault, paused span]).countP isCall = retries + 1 := by
  rw [List.countP_append, counted]
  rfl

end RetryEvent

/-- The seconds after which a fault asks to be tried again; zero asks for nothing. -/
def Fault.hint? (fault : Fault) : Option Number :=
  fault.retryAfter?.filter (!·.isZero)

namespace RetryPolicy

variable (policy : RetryPolicy) (outcomes : Nat → Except Fault α)

/-- An outcome after which there is no other try: a value, or a fault not worth one. -/
def Settles : Except Fault α → Prop
  | .ok _ => True
  | .error fault => policy.retryOn fault = false

/-- The delay when so many faults were tried again, whatever these asked for. -/
def delay : Nat → Number
  | 0 => .float policy.initialDelayMs.toFloat
  | retries + 1 => Number.least (delay retries * policy.backoff) policy.maxDelayMs

/-- How long the pause is after a fault when so many others were tried again. -/
def pauseMs (retries : Nat) (fault : Fault) : Number :=
  match fault.hint? with
  | some seconds => Number.least (seconds * .int 1000) policy.maxDelayMs
  | none => policy.delay retries

/-- What is seen if these faults are tried again when so many others were. -/
def history : Nat → List Fault → List RetryEvent
  | _, [] => [.called]
  | retries, fault :: faults =>
      .called :: .told (retries + 1) fault ::
        .paused (.milliseconds (policy.pauseMs retries fault)) :: history (retries + 1) faults

/-- The faults are those of the first outcomes, up to the one that settles the matter or with which
the tries are used up. -/
structure Retried (faults : List Fault) : Prop where
  again : ∀ index fault, faults[index]? = some fault →
    outcomes index = .error fault ∧ policy.retryOn fault = true
  bounded : faults.length + 1 ≤ policy.maxAttempts
  stops : policy.Settles (outcomes faults.length) ∨ faults.length + 1 = policy.maxAttempts

/-- No number that the policy reckons with when these faults are tried again is out of range. -/
structure InRange (faults : List Fault) : Prop where
  initial : policy.initialDelayMs.toFloat?.isSome
  pauses : ∀ index fault, faults[index]? = some fault → (policy.pauseMs index fault).Lasts
  grows : ∀ index < faults.length, ((policy.delay index).product? policy.backoff).isSome

/-- A task whose calls end in one outcome after the other. -/
def scripted : Action (List RetryEvent) α :=
  fun log => (outcomes (log.countP RetryEvent.isCall), log ++ [.called])

/-- Faults are told by being seen. -/
def watchTelling (attempt : Nat) (fault : Fault) : Action (List RetryEvent) Unit :=
  modify (· ++ [.told attempt fault])

/-- A pause is seen if its seconds are in range. -/
def watchPause (span : Span) : Action (List RetryEvent) Unit := do
  let _ ← liftM span.toSeconds
  modify (· ++ [.paused span])

/-- The result of trying by the policy, and what is seen of it. -/
def watched : Except Fault α × List RetryEvent :=
  policy.run watchPause watchTelling (scripted outcomes) []

/-!
## The course of trying
-/

variable {policy outcomes}

theorem watchTelling_bind_apply (attempt : Nat) (fault : Fault)
    (next : Unit → Action (List RetryEvent) α) (log : List RetryEvent) :
    (watchTelling attempt fault >>= next) log = next () (log ++ [.told attempt fault]) :=
  rfl

theorem watchPause_bind_apply (span : Span) (next : Unit → Action (List RetryEvent) α)
    (log : List RetryEvent) :
    (watchPause span >>= next) log =
      match span.toSeconds with
      | .error unfit => (.error unfit, log)
      | .ok _ => next () (log ++ [.paused span]) := by
  rw [Action.bind_apply, watchPause, Action.liftExcept_bind_apply]
  rcases span.toSeconds with unfit | seconds <;> rfl

theorem spanOf_ok {ms : Number} {span : Span} (fits : spanOf ms = .ok span) :
    span = .milliseconds ms ∧ ms.truncate?.isSome := by
  unfold spanOf at fits
  cases whole : ms.truncate? with
  | none =>
      rw [whole] at fits
      cases fits
  | some n =>
      rw [whole] at fits
      cases fits
      exact ⟨rfl, rfl⟩

theorem spanOf_lasts {ms : Number} (lasts : ms.Lasts) : spanOf ms = .ok (.milliseconds ms) := by
  obtain ⟨n, whole⟩ := Option.isSome_iff_exists.mp lasts.finite
  rw [spanOf, whole]

theorem nextDelay_ok {retries : Nat} {next : Number}
    (grown : policy.nextDelay (policy.delay retries) = .ok next) :
    next = policy.delay (retries + 1) := by
  unfold nextDelay at grown
  cases product : (policy.delay retries).product? policy.backoff with
  | none =>
      rw [product] at grown
      cases grown
  | some grownMs =>
      rw [product] at grown
      cases grown
      rw [delay, Number.product?_eq product]

theorem nextDelay_grows {retries : Nat}
    (grows : ((policy.delay retries).product? policy.backoff).isSome) :
    policy.nextDelay (policy.delay retries) = .ok (policy.delay (retries + 1)) := by
  obtain ⟨grown, product⟩ := Option.isSome_iff_exists.mp grows
  rw [nextDelay, product, delay, Number.product?_eq product]

theorem pauseMs_eq (retries : Nat) (fault : Fault) :
    policy.waitMs (policy.delay retries) fault = policy.pauseMs retries fault := by
  unfold waitMs pauseMs Fault.hint?
  cases fault.retryAfter? with
  | none => rfl
  | some seconds =>
      dsimp only
      rw [Option.filter_some]
      cases seconds.isZero <;> rfl

/-- The last try, or one that settles the matter. -/
theorem attempts_last {more attempt : Nat} {delay : Number} {log : List RetryEvent}
    (last : policy.Settles (outcomes (log.countP RetryEvent.isCall)) ∨ more = 0) :
    policy.attempts watchPause watchTelling (scripted outcomes) more attempt delay log =
      (outcomes (log.countP RetryEvent.isCall), log ++ [.called]) := by
  cases more with
  | zero => rfl
  | succ more =>
      have settles := last.resolve_right (Nat.succ_ne_zero more)
      rw [attempts, Action.tryCatch_apply, scripted]
      rcases outcome : outcomes (log.countP RetryEvent.isCall) with fault | value
      · rw [outcome] at settles
        dsimp only
        rw [show policy.retryOn fault = false from settles]
        rfl
      · rfl

/-- A try after which there is another, unless a number is out of range. -/
theorem attempts_again {more attempt : Nat} {delay : Number} {log : List RetryEvent}
    {fault : Fault} (failed : outcomes (log.countP RetryEvent.isCall) = .error fault)
    (worth : policy.retryOn fault = true) :
    policy.attempts watchPause watchTelling (scripted outcomes) (more + 1) attempt delay log =
      match spanOf (policy.waitMs delay fault) with
      | .error unfit => (.error unfit, log ++ [.called])
      | .ok span =>
          match span.toSeconds with
          | .error unfit => (.error unfit, log ++ [.called, .told attempt fault])
          | .ok _ =>
              match policy.nextDelay delay with
              | .error unfit => (.error unfit, log ++ [.called, .told attempt fault, .paused span])
              | .ok next =>
                  policy.attempts watchPause watchTelling (scripted outcomes) more (attempt + 1)
                    next (log ++ [.called, .told attempt fault, .paused span]) := by
  rw [attempts, Action.tryCatch_apply, scripted, failed]
  dsimp only
  rw [worth, Bool.not_true, if_neg Bool.false_ne_true, Action.liftExcept_bind_apply]
  rcases spanOf (policy.waitMs delay fault) with unfit | span
  · rfl
  dsimp only
  rw [watchTelling_bind_apply, watchPause_bind_apply, List.append_assoc]
  rcases span.toSeconds with unfit | seconds
  · rfl
  dsimp only
  rw [Action.liftExcept_bind_apply, List.append_assoc]
  rcases policy.nextDelay delay with unfit | next <;> rfl

/-- After as many faults as were tried again comes the last try. -/
theorem attempts_stops {faults : List Fault} (retried : policy.Retried outcomes faults)
    {more : Nat} {log : List RetryEvent}
    (counted : log.countP RetryEvent.isCall = faults.length)
    (left : (more + faults.length + 1 : Nat) = policy.maxAttempts) :
    policy.attempts watchPause watchTelling (scripted outcomes) more (faults.length + 1)
        (policy.delay faults.length) log =
      (outcomes faults.length, log ++ [.called]) := by
  rw [← counted]
  refine attempts_last (retried.stops.imp (fun settles => ?_) fun used => ?_)
  · rwa [counted]
  · omega

/-- With so many faults behind, trying goes on as the other faults say. -/
theorem attempts_retried {faults : List Fault} (retried : policy.Retried outcomes faults)
    (inRange : policy.InRange faults) {more retries : Nat} {log : List RetryEvent}
    (counted : log.countP RetryEvent.isCall = retries) (behind : retries ≤ faults.length)
    (left : (more + retries + 1 : Nat) = policy.maxAttempts) :
    policy.attempts watchPause watchTelling (scripted outcomes) more (retries + 1)
        (policy.delay retries) log =
      (outcomes faults.length, log ++ policy.history retries (faults.drop retries)) := by
  have bounded := retried.bounded
  induction more generalizing retries log with
  | zero =>
      obtain rfl : retries = faults.length := by omega
      rw [attempts_stops retried counted left, List.drop_length, history]
  | succ more ih =>
      rcases behind.lt_or_eq with before | rfl
      · have found := List.getElem?_eq_getElem before
        obtain ⟨failed, worth⟩ := retried.again retries _ found
        have lasts := inRange.pauses retries _ found
        obtain ⟨seconds, paused⟩ := lasts.seconds
        rw [attempts_again ((congrArg outcomes counted).trans failed) worth, pauseMs_eq,
          spanOf_lasts lasts]
        dsimp only
        rw [paused, nextDelay_grows (inRange.grows retries before)]
        dsimp only
        rw [ih (RetryEvent.countP_again counted ..) before (by omega),
          List.drop_eq_getElem_cons before, history, List.append_assoc]
        rfl
      · rw [attempts_stops retried counted left, List.drop_length, history]

theorem goesOn_of_not_settles {outcome : Except Fault α} (goesOn : ¬policy.Settles outcome) :
    ∃ fault, outcome = .error fault ∧ policy.retryOn fault = true := by
  cases outcome with
  | ok value => exact absurd trivial goesOn
  | error fault => exact ⟨fault, rfl, eq_true_of_ne_false goesOn⟩

/-- In every row of outcomes there are the faults that are tried again. -/
theorem exists_retried (some : 1 ≤ policy.maxAttempts) (outcomes : Nat → Except Fault α) :
    ∃ faults, policy.Retried outcomes faults := by
  classical
  have ends : ∃ tried : Nat,
      policy.Settles (outcomes tried) ∨ tried + 1 = policy.maxAttempts :=
    ⟨policy.maxAttempts.toNat - 1, .inr (by omega)⟩
  have before (index : Fin (Nat.find ends)) :
      ∃ fault, outcomes index = .error fault ∧ policy.retryOn fault = true :=
    goesOn_of_not_settles (not_or.mp (Nat.find_min ends index.isLt)).1
  choose fault failed worth using before
  refine ⟨List.ofFn fault, ?_, ?_, ?_⟩
  · intro index one found
    obtain ⟨inside, rfl⟩ := List.getElem?_eq_some_iff.mp found
    rw [List.length_ofFn] at inside
    rw [List.getElem_ofFn]
    exact ⟨failed ⟨index, inside⟩, worth ⟨index, inside⟩⟩
  · have few : Nat.find ends ≤ policy.maxAttempts.toNat - 1 := Nat.find_min' ends (.inr (by omega))
    rw [List.length_ofFn]
    omega
  · rw [List.length_ofFn]
    exact Nat.find_spec ends

/-- Whatever the outcomes, there are the faults that are tried again, and they tell what happens
as far as numbers stay in range: the result is the next outcome after theirs, each of them is told
once with its number before there is one pause and another call, and nothing else is seen. -/
theorem watched_retried (some : 1 ≤ policy.maxAttempts) (outcomes : Nat → Except Fault α) :
    (∃ faults, policy.Retried outcomes faults) ∧
      ∀ faults, policy.Retried outcomes faults → policy.InRange faults →
        policy.watched outcomes = (outcomes faults.length, policy.history 0 faults) := by
  refine ⟨exists_retried some outcomes, fun faults retried inRange => ?_⟩
  obtain ⟨initial, begun⟩ := Option.isSome_iff_exists.mp inRange.initial
  obtain ⟨more, tries⟩ :=
    Nat.exists_eq_add_one_of_ne_zero (show policy.maxAttempts.toNat ≠ 0 by omega)
  rw [watched, run, begun, Number.toFloat?_eq begun]
  dsimp only
  rw [tries]
  exact attempts_retried retried inRange rfl (Nat.zero_le _) (by omega)

/-- Up to three tries, with delays that are three times as long from fault to fault. -/
def gentlePolicy : RetryPolicy :=
  { initialDelayMs := .int 100, maxDelayMs := .int 500, backoff := .int 3 }

def busy : Fault :=
  .rateLimit "busy" (some (.int 2))

def lost : Fault :=
  .plain .modelConnection "lost" []

/-- The faults, and then always a value. -/
def faultsThenTrue (faults : List Fault) (index : Nat) : Except Fault Bool :=
  match faults[index]? with
  | some fault => .error fault
  | none => .ok true

theorem watched_retried_on_gentlePolicy :
    1 ≤ gentlePolicy.maxAttempts ∧
      gentlePolicy.watched (faultsThenTrue [busy, lost]) =
        (.ok true, [.called, .told 1 busy, .paused (.milliseconds (.int 500)), .called,
          .told 2 lost, .paused (.milliseconds (.float 300)), .called]) := by
  have retried : gentlePolicy.Retried (faultsThenTrue [busy, lost]) [busy, lost] := by
    refine ⟨fun index fault found => ?_, by decide, .inl trivial⟩
    exact ⟨by rw [faultsThenTrue, found], rfl⟩
  have inRange : gentlePolicy.InRange [busy, lost] := by
    refine ⟨by decide +kernel, ?_, ?_⟩
    · rintro (_ | _ | index) fault found
      · cases found
        exact ⟨by decide +kernel, _, rfl⟩
      · cases found
        exact ⟨by decide +kernel, _, rfl⟩
      · cases found
    · decide +kernel
  refine ⟨by decide, ?_⟩
  rw [(watched_retried (by decide) _).2 _ retried inRange]
  rfl

/-- With a first delay out of range there is no call at all. -/
theorem watched_fails_on_hugeDelay :
    watched { initialDelayMs := .int ((10 ^ 100) ^ 4) } (faultsThenTrue []) =
      (.error (.number .integerTooLarge), []) := by
  have huge : (Number.int ((10 ^ 100) ^ 4)).toFloat? = none := by decide +kernel
  rw [watched, run, huge]
  rfl

/-!
## The length of pauses
-/

/-- The pauses among the events come one after each of the outcomes from here on, which are faults
then, and are finite. -/
def Paused (policy : RetryPolicy) (outcomes : Nat → Except Fault α) (retries : Nat)
    (events : List RetryEvent) : Prop :=
  ∀ index span, (events.filterMap RetryEvent.pause?)[index]? = some span →
    ∃ fault, outcomes (retries + index) = .error fault ∧
      (policy.pauseMs (retries + index) fault).truncate?.isSome ∧
      span = .milliseconds (policy.pauseMs (retries + index) fault)

theorem Paused.never {retries : Nat} {events : List RetryEvent}
    (never : events.filterMap RetryEvent.pause? = []) : Paused policy outcomes retries events := by
  intro index span found
  rw [never] at found
  cases found

theorem Paused.again {retries attempt : Nat} {fault : Fault} {span : Span}
    {events : List RetryEvent} (failed : outcomes retries = .error fault)
    (fits : spanOf (policy.pauseMs retries fault) = .ok span)
    (rest : Paused policy outcomes (retries + 1) events) :
    Paused policy outcomes retries (.called :: .told attempt fault :: .paused span :: events) := by
  rintro (_ | index) later found
  · obtain ⟨rfl, finite⟩ := spanOf_ok fits
    cases found
    exact ⟨fault, failed, finite, rfl⟩
  · rw [Nat.add_comm index, ← Nat.add_assoc]
    exact rest index later found

/-- In range or not, there is no pause but the one after a fault. -/
theorem attempts_paused (more retries : Nat) {log : List RetryEvent}
    (counted : log.countP RetryEvent.isCall = retries) :
    ∃ events, (policy.attempts watchPause watchTelling (scripted outcomes) more (retries + 1)
        (policy.delay retries) log).2 = log ++ events ∧ Paused policy outcomes retries events := by
  induction more generalizing retries log with
  | zero => exact ⟨[.called], rfl, .never rfl⟩
  | succ more ih =>
      by_cases settles : policy.Settles (outcomes retries)
      · rw [← counted] at settles
        exact ⟨[.called], by rw [attempts_last (.inl settles)], .never rfl⟩
      obtain ⟨fault, failed, worth⟩ := goesOn_of_not_settles settles
      rw [attempts_again ((congrArg outcomes counted).trans failed) worth, pauseMs_eq]
      cases fits : spanOf (policy.pauseMs retries fault) with
      | error unfit => exact ⟨[.called], rfl, .never rfl⟩
      | ok span =>
          dsimp only
          cases span.toSeconds with
          | error unfit => exact ⟨[.called, .told (retries + 1) fault], rfl, .never rfl⟩
          | ok seconds =>
              dsimp only
              cases grown : policy.nextDelay (policy.delay retries) with
              | error unfit => exact ⟨_, rfl, .again failed fits (.never rfl)⟩
              | ok next =>
                  obtain rfl := nextDelay_ok grown
                  obtain ⟨events, same, paused⟩ := ih (retries + 1)
                    (RetryEvent.countP_again counted (retries + 1) fault span)
                  rw [List.append_assoc] at same
                  exact ⟨_, same, .again failed fits paused⟩

theorem watched_paused (policy : RetryPolicy) (outcomes : Nat → Except Fault α) :
    Paused policy outcomes 0 (policy.watched outcomes).2 := by
  unfold watched run
  cases begun : policy.initialDelayMs.toFloat? with
  | none => exact .never rfl
  | some initial =>
      cases policy.maxAttempts.toNat with
      | zero => exact .never rfl
      | succ more =>
          have first : ([] : List RetryEvent).countP RetryEvent.isCall = 0 := rfl
          obtain ⟨events, same, paused⟩ := attempts_paused more 0 first
          rw [Number.toFloat?_eq begun]
          exact same.symm ▸ paused

/-- A pause is finite, and longer than the longest delay exactly if it is the first one, comes after
a fault that asks for nothing, and the first delay is longer. -/
theorem pause_over_iff {index : Nat} {span : Span}
    (paused : ((policy.watched outcomes).2.filterMap RetryEvent.pause?)[index]? = some span) :
    ∃ ms time, span = .milliseconds ms ∧ ms.value? = some time ∧
      ∀ most, policy.maxDelayMs.value? = some most →
        (most < time ↔ index = 0 ∧ (∃ fault, outcomes 0 = .error fault ∧ fault.hint? = none) ∧
          ∃ initial, (policy.delay 0).value? = some initial ∧ most < initial) := by
  obtain ⟨fault, failed, finite, rfl⟩ := watched_paused policy outcomes index span paused
  rw [Nat.zero_add] at failed finite ⊢
  obtain ⟨time, value⟩ := Number.value?_of_truncate? finite
  refine ⟨_, time, rfl, value, fun most limit => ?_⟩
  unfold pauseMs at value
  cases hint : fault.hint? with
  | some seconds =>
      rw [hint] at value
      refine iff_of_false (Number.least_le value limit).not_gt ?_
      rintro ⟨rfl, ⟨first, failedFirst, silent⟩, -⟩
      cases failed.symm.trans failedFirst
      cases hint.symm.trans silent
  | none =>
      rw [hint] at value
      cases index with
      | zero =>
          refine ⟨fun longer => ⟨rfl, ⟨fault, failed, hint⟩, time, value, longer⟩, ?_⟩
          rintro ⟨-, -, initial, same, longer⟩
          cases value.symm.trans same
          exact longer
      | succ index =>
          refine iff_of_false (Number.least_le value limit).not_gt ?_
          rintro ⟨first, -⟩
          cases first

/-- The first delay is longer than the longest one. -/
def steepPolicy : RetryPolicy :=
  { initialDelayMs := .int 50000, maxDelayMs := .int 1000 }

theorem pause_over_iff_on_steepPolicy :
    ∃ ms time,
      ((steepPolicy.watched (faultsThenTrue [lost, lost])).2.filterMap RetryEvent.pause?)[1]? =
        some (.milliseconds ms) ∧ ms.value? = some time ∧ time ≤ 1000 := by
  have paused :
      ((steepPolicy.watched (faultsThenTrue [lost, lost])).2.filterMap RetryEvent.pause?)[1]? =
        some (.milliseconds (.int 1000)) := rfl
  obtain ⟨ms, time, same, value, longer⟩ := pause_over_iff paused
  rw [same] at paused
  refine ⟨ms, time, paused, value, not_lt.mp fun above => ?_⟩
  cases ((longer 1000 rfl).mp above).1

/-- After a fault that asks for nothing the first pause is too long. -/
theorem steepPolicy_pauses_longer :
    ∃ ms time,
      ((steepPolicy.watched (faultsThenTrue [lost])).2.filterMap RetryEvent.pause?)[0]? =
        some (.milliseconds ms) ∧ ms.value? = some time ∧
        steepPolicy.maxDelayMs.value? = some 1000 ∧ 1000 < time := by
  have parts : Decimal.Binary.ofFloat? 50000 = some ⟨false, 6871947673600000, -37, false⟩ := rfl
  refine ⟨.float 50000, 50000, rfl, ?_, rfl, by norm_num⟩
  rw [Number.value?, Decimal.value?, parts]
  norm_num [Decimal.Binary.value, Decimal.Binary.magnitude]

end RetryPolicy

end Gleaner
