import Gleaner.Proofs.Run.Looking

/-!
# Control flow, one turn at a time

What one turn of each loop does to a session, as equations: the check of the time, the step
that is run, and the rest of the loop from the session after it.
-/

set_option autoImplicit false

namespace Gleaner

variable {σ : Type}

/-- The session as it enters the body for an item. -/
def Session.atItem (current : CurrentItem) (session : Session σ) : Session σ :=
  { session with run := { session.run.enter current with skipping := false } }

theorem untilFailure_cons (step : Step σ) (rest : List (Step σ)) (session : Session σ) :
    untilFailure (step :: rest) session =
      if session.run.stopped || session.run.skipping then (none, session)
      else
        if (step session).1.isOk then untilFailure rest (step session).2
        else (some (step session).1, (step session).2) := by
  show (if session.run.stopped || session.run.skipping then pure none else _ : StateM _ _) session = _
  split
  · rfl
  · show (if (step session).1.isOk then _ else _ : StateM _ _) (step session).2 = _
    split <;> rfl

theorem untilFailure_ok {step : Step σ} {session after : Session σ} {report : Report}
    (rest : List (Step σ)) (going : session.run.stopped = false)
    (unskipped : session.run.skipping = false) (ran : step session = (.ok report, after)) :
    untilFailure (step :: rest) session = untilFailure rest after := by
  rw [untilFailure_cons, ran, going, unskipped]
  rfl

theorem regardless_cons (step : Step σ) (rest : List (Step σ)) (session : Session σ) :
    regardless (step :: rest) session =
      if session.checkTime.run.stopped then ((), session.checkTime)
      else regardless rest (step session.checkTime).2 := by
  show (if session.checkTime.run.stopped then pure () else _ : StateM _ _) session.checkTime = _
  split <;> rfl

/-- A look at the clock leaves a session as it is, or it stops a run that is late. -/
theorem Session.checkTime_cases (session : Session σ) :
    (session.run.stopped = true ∨ session.deadline.any (· session.world) = false) ∧
        session.checkTime = session ∨
      (session.run.stopped = false ∧ session.deadline.any (· session.world) = true) ∧
        session.checkTime =
          { session with run := { session.run with stopped := true }, timedOut := true } := by
  unfold checkTime
  cases session.deadline with
  | none => exact .inl ⟨.inr rfl, rfl⟩
  | some reached =>
      rw [Option.any_some]
      dsimp only
      split
      next stops => exact .inr ⟨by simpa using stops, rfl⟩
      next stays => exact .inl ⟨by simpa [Decidable.imp_iff_not_or] using stays, rfl⟩

theorem Session.checkTime_untimed {session : Session σ} (untimed : session.deadline = none) :
    session.checkTime = session := by
  rcases session.checkTime_cases with ⟨-, same⟩ | ⟨⟨-, late⟩, -⟩
  · exact same
  · rw [untimed] at late
    cases late

theorem regardless_nil (session : Session σ) : regardless [] session = ((), session) :=
  rfl

theorem regardless_stopped (steps : List (Step σ)) {session : Session σ}
    (untimed : session.deadline = none) (stopped : session.run.stopped = true) :
    regardless steps session = ((), session) := by
  cases steps with
  | nil => rfl
  | cons step rest =>
      rw [regardless_cons, Session.checkTime_untimed untimed, stopped]
      rfl

theorem regardless_going {step : Step σ} {rest : List (Step σ)} {session : Session σ}
    (untimed : session.deadline = none) (going : session.run.stopped = false) :
    regardless (step :: rest) session = regardless rest (step session).2 := by
  rw [regardless_cons, Session.checkTime_untimed untimed, going]
  rfl

namespace Interp

variable (host : Host σ)

theorem forItems_cons (skipProcessed : Bool) (body : List (Step σ)) (handled skipped : Nat)
    (item : ListItem) (rest : List ListItem) (session : Session σ) :
    forItems skipProcessed body handled skipped (item :: rest) session =
      if session.checkTime.run.stopped then (.ok (.visited handled skipped), session.checkTime)
      else
        match session.checkTime.bindings.toCurrent item with
        | .error fault => (.error fault, session.checkTime)
        | .ok current =>
            if skipProcessed && session.checkTime.run.isProcessed current.id then
              forItems skipProcessed body handled (skipped + 1) rest session.checkTime
            else
              forItems skipProcessed body (handled + 1) skipped rest
                (untilFailure body (session.checkTime.atItem current)).2 := by
  simp only [forItems, bind_apply, overdue_apply]
  split
  · rfl
  · simp only [bind_apply, bindings_apply, liftExcept_apply]
    cases session.checkTime.bindings.toCurrent item with
    | error fault => rfl
    | ok current =>
        simp only [run_apply]
        split <;> rfl

theorem forEachItem_apply (skipProcessed : Bool) (body : List (Step σ)) (session : Session σ) :
    forEachItem host skipProcessed body session =
      match listItems host session with
      | (.error fault, after) => (.error fault, after)
      | (.ok items, after) =>
          if items = [] then (.ok (.visited 0 0), after)
          else
            match forItems skipProcessed body 0 0 items after with
            | (.error fault, final) => (.error fault, final)
            | (.ok report, final) =>
                (.ok report, { final with run := { final.run with skipping := false } }) := by
  simp only [forEachItem, bind_apply]
  rcases listItems host session with ⟨fault | items, after⟩
  · rfl
  · cases items with
    | nil => rfl
    | cons item rest =>
        simp only [bind_apply]
        rcases forItems skipProcessed body 0 0 (item :: rest) after with ⟨fault | report, final⟩ <;> rfl

theorem passes_succ (goal : Until) (body : List (Step σ)) (scrollsBefore rounds left : Nat)
    (session : Session σ) :
    passes host goal body scrollsBefore rounds (left + 1) session =
      if session.checkTime.run.stopped then (.ok (.repeated rounds false), session.checkTime)
      else
        match pass host body session.checkTime with
        | (.error fault, after) => (.error fault, after)
        | (.ok _, after) =>
            match reached host scrollsBefore goal after with
            | (.error fault, after) => (.error fault, after)
            | (.ok true, after) => (.ok (.repeated (rounds + 1) false), after)
            | (.ok false, after) =>
                match noMoreItems host after with
                | (.error fault, after) => (.error fault, after)
                | (.ok true, after) => (.ok (.repeated (rounds + 1) false), after)
                | (.ok false, after) =>
                    passes host goal body scrollsBefore (rounds + 1) left after := by
  simp only [passes, bind_apply, overdue_apply]
  split
  · rfl
  · simp only [bind_apply]
    rcases pass host body session.checkTime with ⟨fault | _, after⟩
    · rfl
    · dsimp only
      rcases reached host scrollsBefore goal after with ⟨fault | _ | _, after⟩
      · rfl
      · simp only [Bool.false_eq_true, ↓reduceIte, bind_apply]
        rcases noMoreItems host after with ⟨fault | _ | _, after⟩ <;> rfl
      · rfl

theorem poll_apply_of_check {check : Interp σ Bool} {timeoutMs : Nat} {deadline : Deadline σ}
    {session after : Session σ}
    (inRange : host.clock.deadline timeoutMs session.world = .ok deadline)
    (checked : check session = (.ok true, after)) :
    poll host check timeoutMs session = (.ok true, after) := by
  simp only [poll, bind_apply, get_apply, liftExcept_apply, inRange, pollUntil, checked]
  rfl

end Interp

/-!
## Runs of recipes
-/

namespace Session

variable (host : Host σ) (recipe : Recipe) (session : Session σ)

/-- A run begins on the world and with the bindings that there are; all else is new. -/
theorem begin_renews (limits : RunLimits) :
    ∃ deadline, (begin host limits session).2 =
      { session with
        run := { startedAt := host.clock.time session.world }
        maxItems := limits.maxItems
        deadline
        timedOut := false } := by
  unfold begin
  cases limits.timeoutMs with
  | none => exact ⟨_, rfl⟩
  | some timeoutMs =>
      simp only [bind_apply, modify_apply, get_apply]
      cases host.clock.deadline timeoutMs session.world <;> exact ⟨_, rfl⟩

/-- A run can begin unless the clock refuses its time limit. -/
theorem begin_verdict (limits : RunLimits) :
    (begin host limits session).1 =
      match limits.timeoutMs with
      | none => .ok ()
      | some timeoutMs => (host.clock.deadline timeoutMs session.world).map fun _ => () := by
  unfold begin
  cases limits.timeoutMs with
  | none => rfl
  | some timeoutMs =>
      simp only [bind_apply, modify_apply, get_apply]
      cases host.clock.deadline timeoutMs session.world <;> rfl

/-- A run begins with nothing saved and nothing counted, and with the bound of its recipe. -/
theorem begin_fresh (limits : RunLimits) :
    (begin host limits session).2.run = { startedAt := host.clock.time session.world } ∧
      (begin host limits session).2.maxItems = limits.maxItems := by
  obtain ⟨deadline, begun⟩ := begin_renews host session limits
  rw [begun]
  exact ⟨rfl, rfl⟩

theorem execute_apply :
    execute host recipe session =
      match begin host recipe.limits session with
      | (.error fault, after) => (.error fault, after)
      | (.ok _, begun) =>
          let (error, after) := runAll host recipe.commands begun
          ((.ok (conclude host recipe.limits error after).1,
            (conclude host recipe.limits error after).2)) := by
  rw [execute, bind_apply]
  rcases begin host recipe.limits session with ⟨fault | _, begun⟩ <;> rfl

/-- The result of a run has everything that was saved, and the final counters. -/
theorem execute_result {result : RunResult}
    (ended : (execute host recipe session).1 = .ok result) :
    result.items = (execute host recipe session).2.run.collected ∧
      result.stats = (execute host recipe session).2.run.stats := by
  rw [execute_apply] at ended ⊢
  rcases ran : begin host recipe.limits session with ⟨fault | _, begun⟩
  all_goals
    rw [ran] at ended
    cases ended
  exact ⟨rfl, rfl⟩

/-- A run that can begin has a result. -/
theorem execute_ok_of_begin {host : Host σ} {recipe : Recipe} {session : Session σ}
    (begun : (begin host recipe.limits session).1 = .ok ()) :
    ∃ result, (execute host recipe session).1 = .ok result := by
  rw [execute_apply]
  rcases ran : begin host recipe.limits session with ⟨fault | _, after⟩
  · rw [ran] at begun
    cases begun
  · exact ⟨_, rfl⟩

theorem execute_ok (untimed : recipe.limits.timeoutMs = none) :
    ∃ result, (execute host recipe session).1 = .ok result :=
  execute_ok_of_begin (by rw [begin_verdict, untimed])

end Session

end Gleaner
