import Gleaner.Proofs.Run.Stop

/-!
# A run outside of the items

The chronicle of a run, with everything that an iteration over the list goes through taken as
one chapter. What is left is what the run does while it is at no item: the moments between the
commands, and the commands that stand in no body of an iteration. An `Account` says what may
come after what there: of the commands of a branch none starts while the rest is skipped, those
of a repetition start regardless.
-/

set_option autoImplicit false

namespace Gleaner

variable {σ α β : Type}

/-- A moment of a chronicle, or all the moments of an iteration that begins in a session. -/
inductive Chapter (σ : Type) where
  | moment (moment : Moment σ)
  | iteration (body : List Command) (skipProcessed : Bool) (session : Session σ)
      (moments : List (Moment σ))

namespace Chapter

def moments : Chapter σ → List (Moment σ)
  | .moment noted => [noted]
  | .iteration _ _ _ moments => moments

/-- Where the chapter begins. -/
def session : Chapter σ → Session σ
  | .moment noted => noted.session
  | .iteration _ _ session _ => session

def starting : Chapter σ → Option Command
  | .moment noted => noted.starting
  | .iteration body skipProcessed _ _ => some (.forEachItem body skipProcessed)

def isIteration : Chapter σ → Bool
  | .moment _ => false
  | .iteration _ _ _ _ => true

/-- An iteration has the moments that it tells, and none starts outside of such a chapter. -/
def Genuine (host : Host σ) : Chapter σ → Prop
  | .moment noted => ∀ body skipProcessed, noted.starting ≠ some (.forEachItem body skipProcessed)
  | .iteration body skipProcessed session moments => ∃ past,
      Telling.command host (.forEachItem body skipProcessed) (session, past) =
        (((Command.forEachItem body skipProcessed).run host session).1,
          ((Command.forEachItem body skipProcessed).run host session).2, past ++ moments)

end Chapter

/-- The moments of some chapters, one after the other. -/
def momentsOf (chapters : List (Chapter σ)) : List (Moment σ) :=
  chapters.flatMap Chapter.moments

@[simp] theorem momentsOf_nil : momentsOf ([] : List (Chapter σ)) = [] := rfl

@[simp] theorem momentsOf_append (chapters others : List (Chapter σ)) :
    momentsOf (chapters ++ others) = momentsOf chapters ++ momentsOf others :=
  List.flatMap_append

@[simp] theorem momentsOf_cons (chapter : Chapter σ) (chapters : List (Chapter σ)) :
    momentsOf (chapter :: chapters) = chapter.moments ++ momentsOf chapters := rfl

/-!
## Branches that are run in full
-/

/-- Runs steps in order up to the first failure, which is the answer; only a stop leaves the
rest out. -/
def untilStopped : List (Step σ) → StateM (Session σ) (Option Outcome)
  | [] => return none
  | step :: rest => do
      if (← get).run.stopped then return none
      let outcome ← step
      if outcome.isOk then untilStopped rest else return some outcome

/-- Runs one of two branches in full, as `choose` does where nothing is skipped. -/
def Interp.chooseFully (host : Host σ) (condition : Condition)
    (thenBranch elseBranch : List (Step σ)) : Interp σ Outcome := do
  let taken ← evaluate host condition
  match ← untilStopped (if taken then thenBranch else elseBranch) with
  | some failure => return failure
  | none => return .ok (.took taken)

theorem untilStopped_cons (step : Step σ) (rest : List (Step σ)) (session : Session σ) :
    untilStopped (step :: rest) session =
      if session.run.stopped then (none, session)
      else
        if (step session).1.isOk then untilStopped rest (step session).2
        else (some (step session).1, (step session).2) := by
  show (if session.run.stopped then pure none else _ : StateM _ _) session = _
  split
  · rfl
  · show (if (step session).1.isOk then _ else _ : StateM _ _) (step session).2 = _
    split <;> rfl

/-!
## Accounts
-/

/-- What a part of a run may go through: one command, or any commands of a list, which start
only while nothing is skipped if it is `heeding`. -/
inductive Stretch where
  | one (command : Command)
  | any (heeding : Bool) (list : List Command)

/-- A command runs commands of a list outside of the items: a choice heeds a skip, and runs one of
its branches; a repetition does not. -/
inductive Command.Opens : Command → Bool → List Command → Prop where
  | thenBranch {condition : Condition} {thenBranch elseBranch : List Command} :
      Command.Opens (.choose condition thenBranch elseBranch) true thenBranch
  | elseBranch {condition : Condition} {thenBranch elseBranch : List Command} :
      Command.Opens (.choose condition thenBranch elseBranch) true elseBranch
  | body {body : List Command} {goal : Until} : Command.Opens (.repeatUntil body goal) false body

/-- The chapters that a part of a run goes through from one session to another. A choice that goes
through nothing skipped runs its branch in full. -/
inductive Account (host : Host σ) :
    Stretch → Session σ → List (Chapter σ) → Session σ → Prop where
  | done {heeding : Bool} {list : List Command} {session : Session σ} :
      Account host (.any heeding list) session [] session
  | passed {heeding : Bool} {list : List Command} {session next final : Session σ}
      {rest : List (Chapter σ)} :
      next.run.skipping = session.run.skipping →
      Account host (.any heeding list) next rest final →
      Account host (.any heeding list) session (.moment { session := next } :: rest) final
  | ran {heeding : Bool} {list : List Command} {session middle final : Session σ}
      {first rest : List (Chapter σ)} (command : Command) :
      command ∈ list → (heeding = true → session.run.skipping = false) →
      Account host (.one command) session first middle →
      Account host (.any heeding list) middle rest final →
      Account host (.any heeding list) session (first ++ rest) final
  | plain {session : Session σ} (command : Command) : command.isPlain = true →
      Account host (.one command) session
        [.moment { session, starting := some command },
          .moment { session := (command.run host session).2 }]
        (command.run host session).2
  | iterated {session : Session σ} {moments : List (Moment σ)} (body : List Command)
      (skipProcessed : Bool) :
      (Chapter.iteration body skipProcessed session moments).Genuine host →
      Account host (.one (.forEachItem body skipProcessed)) session
        [.iteration body skipProcessed session moments]
        ((Command.forEachItem body skipProcessed).run host session).2
  | opened {session final : Session σ} {chapters : List (Chapter σ)} {command : Command}
      {heeding : Bool} {list : List Command} :
      command.Opens heeding list →
      (∀ condition thenBranch elseBranch, command = .choose condition thenBranch elseBranch →
        (∀ chapter ∈ chapters, chapter.session.run.skipping = false) →
        command.run host session =
          attempt (Interp.chooseFully host condition (Command.steps host thenBranch)
            (Command.steps host elseBranch)) session) →
      Account host (.any heeding list) session.counted chapters final →
      Account host (.one command) session
        (.moment { session, starting := some command } ::
          .moment { session := session.counted } :: chapters) final

namespace Account

variable {host : Host σ} {session middle final : Session σ} {first rest chapters : List (Chapter σ)}

theorem append {heeding : Bool} {list : List Command}
    (account : Account host (.any heeding list) session first middle)
    (further : Account host (.any heeding list) middle rest final) :
    Account host (.any heeding list) session (first ++ rest) final := by
  generalize same : Stretch.any heeding list = stretch at account
  induction account with
  | done =>
      cases same
      exact further
  | passed still _ ih =>
      cases same
      exact .passed still (ih further rfl)
  | ran command listed heeded one _ _ ih =>
      cases same
      rw [List.append_assoc]
      exact .ran command listed heeded one (ih further rfl)
  | _ => cases same

theorem genuine {stretch : Stretch} (account : Account host stretch session chapters final) :
    ∀ chapter ∈ chapters, chapter.Genuine host := by
  have unstarted (session : Session σ) :
      (Chapter.moment { session := session }).Genuine host := nofun
  induction account with
  | done => exact List.forall_mem_nil _
  | passed _ _ ih => exact List.forall_mem_cons.mpr ⟨unstarted _, ih⟩
  | ran _ _ _ _ _ one others => exact List.forall_mem_append.mpr ⟨one, others⟩
  | plain command plain =>
      refine List.forall_mem_cons.mpr ⟨?_, List.forall_mem_singleton.mpr (unstarted _)⟩
      rintro body skipProcessed started
      cases started
      cases plain
  | iterated _ _ genuine => exact List.forall_mem_singleton.mpr genuine
  | @opened session _ _ command _ _ opens _ _ ih =>
      have other : (Chapter.moment { session, starting := some command }).Genuine host := by
        cases opens <;> exact nofun
      exact List.forall_mem_cons.mpr ⟨other, List.forall_mem_cons.mpr ⟨unstarted _, ih⟩⟩

end Account

/-!
## Tellings, one turn at a time
-/

theorem Telling.untilFailure_cons (step : Telling σ Outcome) (rest : List (Telling σ Outcome))
    (session : Session σ) (past : List (Moment σ)) :
    untilFailure (step :: rest) (session, past) =
      if session.run.stopped || session.run.skipping then
        (none, session, past ++ [{ session := session }])
      else
        if (step (session, past ++ [{ session := session }])).1.isOk then
          untilFailure rest (step (session, past ++ [{ session := session }])).2
        else
          (some (step (session, past ++ [{ session := session }])).1,
            (step (session, past ++ [{ session := session }])).2) := by
  show (if session.run.stopped || session.run.skipping then pure none else _ : Telling σ _)
    (session, past ++ [{ session := session }]) = _
  split
  · rfl
  · show (if (step (session, past ++ [{ session := session }])).1.isOk then _ else _ : Telling σ _)
      (step (session, past ++ [{ session := session }])).2 = _
    split <;> rfl

theorem Telling.bind_apply (told : ExceptT Fault (Telling σ) α)
    (next : α → ExceptT Fault (Telling σ) β) (noted : Session σ × List (Moment σ)) :
    (told >>= next : ExceptT Fault (Telling σ) β) noted =
      match told noted with
      | (.ok value, after) => next value after
      | (.error fault, after) => (.error fault, after) := by
  simp only [bind, ExceptT.bind, ExceptT.mk, ExceptT.bindCont, StateT.bind]
  rcases told noted with ⟨fault | value, after⟩ <;> rfl

theorem Telling.say_bind (prog : Interp σ α) (next : α → ExceptT Fault (Telling σ) β)
    (session : Session σ) (past : List (Moment σ)) :
    (say prog >>= next : ExceptT Fault (Telling σ) β) (session, past) =
      match prog session with
      | (.ok value, after) => next value (after, past ++ [{ session := after }])
      | (.error fault, after) => (.error fault, after, past ++ [{ session := after }]) := by
  have said : say prog (session, past) =
      ((prog session).1, (prog session).2, past ++ [{ session := (prog session).2 }]) := rfl
  rw [bind_apply, said]
  rcases prog session with ⟨fault | value, after⟩ <;> rfl

theorem Telling.lift_bind (told : Telling σ α) (next : α → ExceptT Fault (Telling σ) β)
    (session : Session σ) (past : List (Moment σ)) :
    (liftM told >>= next : ExceptT Fault (Telling σ) β) (session, past) =
      next (told (session, past)).1 (told (session, past)).2 := rfl

/-- The outcome of a choice whose branch ended with a failure or with none. -/
def Outcome.ofBranch (taken : Bool) (failure : Option Outcome) : Outcome :=
  failure.getD (.ok (.took taken))

theorem Telling.choose_apply (host : Host σ) (condition : Condition)
    (thenBranch elseBranch : List (Telling σ Outcome)) (session : Session σ)
    (past : List (Moment σ)) :
    choose host condition thenBranch elseBranch (session, past) =
      match Interp.evaluate host condition session with
      | (.error fault, after) => (.error fault, after, past ++ [{ session := after }])
      | (.ok taken, after) =>
          let told := untilFailure (if taken then thenBranch else elseBranch)
            (after, past ++ [{ session := after }])
          (.ok (.ofBranch taken told.1), told.2) := by
  rw [choose, say_bind]
  rcases Interp.evaluate host condition session with ⟨fault | taken, after⟩
  · rfl
  · dsimp only
    rw [lift_bind]
    cases (untilFailure (if taken then thenBranch else elseBranch)
      (after, past ++ [{ session := after }])).1 <;> rfl

theorem Interp.choose_apply (host : Host σ) (condition : Condition)
    (thenBranch elseBranch : List (Step σ)) (session : Session σ) :
    choose host condition thenBranch elseBranch session =
      match evaluate host condition session with
      | (.error fault, after) => (.error fault, after)
      | (.ok taken, after) =>
          let ran := untilFailure (if taken then thenBranch else elseBranch) after
          (.ok (.ofBranch taken ran.1), ran.2) := by
  rw [choose, bind_apply]
  rcases evaluate host condition session with ⟨fault | taken, after⟩
  · rfl
  · dsimp only
    rw [bind_apply, liftState_apply]
    cases ran : (untilFailure (if taken then thenBranch else elseBranch) after).1 <;> rfl

theorem Interp.chooseFully_apply (host : Host σ) (condition : Condition)
    (thenBranch elseBranch : List (Step σ)) (session : Session σ) :
    chooseFully host condition thenBranch elseBranch session =
      match evaluate host condition session with
      | (.error fault, after) => (.error fault, after)
      | (.ok taken, after) =>
          let ran := untilStopped (if taken then thenBranch else elseBranch) after
          (.ok (.ofBranch taken ran.1), ran.2) := by
  rw [chooseFully, bind_apply]
  rcases evaluate host condition session with ⟨fault | taken, after⟩
  · rfl
  · dsimp only
    rw [bind_apply, liftState_apply]
    cases ran : (untilStopped (if taken then thenBranch else elseBranch) after).1 <;> rfl

theorem Telling.command_plain {host : Host σ} {command : Command}
    (plain : command.isPlain = true) :
    Telling.command host command = starting command (tell (command.run host)) := by
  cases command <;> first | rfl | cases plain

/-- What follows the start and the count of a command, told and then finished in silence. -/
theorem Telling.counting_of_told {told : Telling σ α} {prog : StateM (Session σ) α}
    {toldFinish : α → Telling σ β} {finish : α → StateM (Session σ) β} {command : Command}
    {session : Session σ} {past news : List (Moment σ)}
    (same : told (session.counted,
        past ++ [{ session, starting := some command }] ++ [{ session := session.counted }]) =
      ((prog session.counted).1, (prog session.counted).2,
        past ++ [{ session, starting := some command }] ++ [{ session := session.counted }] ++
          news))
    (finishes : ∀ value after moments, toldFinish value (after, moments) =
      ((finish value after).1, (finish value after).2, moments)) :
    starting command (tell (modify Session.counted) >>= fun _ => told >>= toldFinish)
        (session, past) =
      (((modify Session.counted >>= fun _ => prog >>= finish) session).1,
        ((modify Session.counted >>= fun _ => prog >>= finish) session).2,
        past ++
          { session, starting := some command } :: { session := session.counted } :: news) := by
  rw [List.append_assoc _ _ news, List.append_assoc _ _ (_ ++ news)] at same
  show toldFinish (told (session.counted, _)).1 (told (session.counted, _)).2 = _
  rw [same, finishes]
  rfl

/-- A command whose body has been told from where its start is noted and counted. -/
theorem Telling.attempt_of_body {told : ExceptT Fault (Telling σ) Outcome}
    {body : Interp σ Outcome} {command : Command} {session : Session σ}
    {past news : List (Moment σ)}
    (same : told (session.counted,
        past ++ [{ session, starting := some command }] ++ [{ session := session.counted }]) =
      ((body session.counted).1, (body session.counted).2,
        past ++ [{ session, starting := some command }] ++ [{ session := session.counted }] ++
          news)) :
    attempt command told (session, past) =
      ((Gleaner.attempt body session).1, (Gleaner.attempt body session).2,
        past ++
          { session, starting := some command } :: { session := session.counted } :: news) :=
  counting_of_told same fun result after moments => by cases result <;> rfl

/-!
## What is told has an account
-/

/-- Telling of a program from a session: the same result, the same session after it, and the
moments of chapters that account for it. -/
def Recounts (host : Host σ) (stretch : Stretch) (session : Session σ) (told : Telling σ α)
    (prog : StateM (Session σ) α) : Prop :=
  ∀ past, ∃ chapters,
    told (session, past) = ((prog session).1, (prog session).2, past ++ momentsOf chapters) ∧
      Account host stretch session chapters (prog session).2

namespace Recounts

variable {host : Host σ} {heeding : Bool} {list : List Command} {session : Session σ}

theorem pure (value : α) :
    Recounts host (.any heeding list) session (Pure.pure value) (Pure.pure value) :=
  fun past => ⟨[], by rw [momentsOf_nil, List.append_nil]; rfl, .done⟩

theorem bind {told : Telling σ α} {prog : StateM (Session σ) α} {toldNext : α → Telling σ β}
    {next : α → StateM (Session σ) β}
    (recounts : Recounts host (.any heeding list) session told prog)
    (nextRecounts : Recounts host (.any heeding list) (prog session).2 (toldNext (prog session).1)
      (next (prog session).1)) :
    Recounts host (.any heeding list) session (told >>= toldNext) (prog >>= next) := by
  intro past
  obtain ⟨chapters, same, account⟩ := recounts past
  obtain ⟨more, sameNext, further⟩ := nextRecounts (past ++ momentsOf chapters)
  refine ⟨chapters ++ more, ?_, account.append further⟩
  calc (told >>= toldNext) (session, past)
      = (toldNext (told (session, past)).1) (told (session, past)).2 := rfl
    _ = toldNext (prog session).1 ((prog session).2, past ++ momentsOf chapters) := by rw [same]
    _ = _ := by rw [sameNext, List.append_assoc, ← momentsOf_append]; rfl

theorem andThen {told : Telling σ α} {prog : StateM (Session σ) α} {toldNext : α → Telling σ β}
    {next : α → StateM (Session σ) β}
    (recounts : Recounts host (.any heeding list) session told prog)
    (nextRecounts : ∀ value, Recounts host (.any heeding list) (prog session).2 (toldNext value)
      (next value)) :
    Recounts host (.any heeding list) session (told >>= toldNext) (prog >>= next) :=
  recounts.bind (nextRecounts _)

theorem ite {condition : Prop} [Decidable condition] {told toldElse : Telling σ α}
    {prog progElse : StateM (Session σ) α}
    (recounts : condition → Recounts host (.any heeding list) session told prog)
    (recountsElse : ¬condition → Recounts host (.any heeding list) session toldElse progElse) :
    Recounts host (.any heeding list) session (if condition then told else toldElse)
      (if condition then prog else progElse) := by
  split
  next holds => exact recounts holds
  next fails => exact recountsElse fails

/-- A noted program that neither begins nor ends a skip. -/
theorem tell {prog : StateM (Session σ) α}
    (still : (prog session).2.run.skipping = session.run.skipping) :
    Recounts host (.any heeding list) session (Telling.tell prog) prog :=
  fun _ => ⟨[.moment { session := (prog session).2 }], rfl, .passed still .done⟩

theorem overdue :
    Recounts host (.any heeding list) session (Telling.tell Gleaner.overdue) Gleaner.overdue := by
  refine .tell ?_
  show session.checkTime.run.skipping = session.run.skipping
  rcases session.checkTime_cases with ⟨-, same⟩ | ⟨-, same⟩ <;> rw [same]

theorem discard {told : Telling σ α} {prog : StateM (Session σ) α}
    (recounts : Recounts host (.any heeding list) session told prog) :
    Recounts host (.any heeding list) session (Functor.discard told) (Functor.discard prog) :=
  @Recounts.bind _ _ _ _ _ _ _ _ _ (fun _ => Pure.pure ()) (fun _ => Pure.pure ()) recounts
    (.pure ())

/-- One command of a list that may start regardless. -/
theorem ofOne {command : Command} {told : Telling σ α} {prog : StateM (Session σ) α}
    (recounts : Recounts host (.one command) session told prog) (listed : command ∈ list) :
    Recounts host (.any false list) session told prog := by
  intro past
  obtain ⟨chapters, same, account⟩ := recounts past
  refine ⟨chapters ++ [], ?_, .ran command listed (fun heeded => absurd heeded Bool.false_ne_true)
    account .done⟩
  rw [List.append_nil]
  exact same

/-!
### Programs that may fail
-/

theorem ok (value : α) :
    Recounts host (.any heeding list) session
      (Pure.pure value : ExceptT Fault (Telling σ) α) (Pure.pure value : Interp σ α) :=
  .pure (Except.ok value)

theorem say {prog : Interp σ α} (still : (prog session).2.run.skipping = session.run.skipping) :
    Recounts host (.any heeding list) session (Telling.say prog) prog :=
  @Recounts.tell _ _ _ _ _ _ (ExceptT.run prog) still

theorem sayLooking {prog : Interp σ α} (looks : prog.Looks) :
    Recounts host (.any heeding list) session (Telling.say prog) prog := by
  obtain ⟨world, reached⟩ := looks session
  exact .say (by rw [reached])

theorem bindOk {told : ExceptT Fault (Telling σ) α} {prog : Interp σ α}
    {toldNext : α → ExceptT Fault (Telling σ) β} {next : α → Interp σ β}
    (recounts : Recounts host (.any heeding list) session told prog)
    (nextRecounts : ∀ value, Recounts host (.any heeding list) (prog session).2 (toldNext value)
      (next value)) :
    Recounts host (.any heeding list) session
      (told >>= toldNext : ExceptT Fault (Telling σ) β) (prog >>= next : Interp σ β) := by
  refine @andThen _ _ _ _ _ _ _ _ _ (ExceptT.bindCont toldNext) (ExceptT.bindCont next) recounts
    fun result => ?_
  cases result with
  | ok value => exact nextRecounts value
  | error fault => exact .pure _

theorem lift {told : Telling σ α} {prog : StateM (Session σ) α}
    (recounts : Recounts host (.any heeding list) session told prog) :
    Recounts host (.any heeding list) session
      (liftM told : ExceptT Fault (Telling σ) α) (liftM prog : Interp σ α) :=
  @Recounts.bind _ _ _ _ _ _ _ _ _ (fun value => Pure.pure (Except.ok value))
    (fun value => Pure.pure (Except.ok value)) recounts (.pure _)

/-!
### Flow of control
-/

/-- A told step that recounts a step, as one command of a list, wherever commands may start. -/
def Enters (host : Host σ) (list : List Command) (told : Telling σ Outcome) (step : Step σ) :
    Prop :=
  ∃ command ∈ list, ∀ session, session.run.stopped = false →
    Recounts host (.one command) session told step

variable {told : List (Telling σ Outcome)} {steps : List (Step σ)}

/-- Where nothing is skipped on the way, the steps are run until a failure or a stop. -/
theorem untilFailure (enters : List.Forall₂ (Enters host list) told steps)
    (session : Session σ) (past : List (Moment σ)) :
    ∃ chapters, Telling.untilFailure told (session, past) =
        ((Gleaner.untilFailure steps session).1, (Gleaner.untilFailure steps session).2,
          past ++ momentsOf chapters) ∧
      Account host (.any true list) session chapters (Gleaner.untilFailure steps session).2 ∧
      ((∀ chapter ∈ chapters, chapter.session.run.skipping = false) →
        Gleaner.untilFailure steps session = untilStopped steps session) := by
  induction enters generalizing session past with
  | nil => exact ⟨[], by rw [momentsOf_nil, List.append_nil]; rfl, .done, fun _ => rfl⟩
  | @cons toldStep step toldRest steps first _ ih =>
      obtain ⟨command, listed, recounts⟩ := first
      rw [Telling.untilFailure_cons, untilFailure_cons, untilStopped_cons]
      cases closed : session.run.stopped || session.run.skipping with
      | true =>
          refine ⟨[.moment { session := session }], rfl, .passed rfl .done, fun unskipped => ?_⟩
          have unskipped : session.run.skipping = false := unskipped _ List.mem_cons_self
          rw [unskipped, Bool.or_false] at closed
          rw [closed]
          rfl
      | false =>
          obtain ⟨going, heeded⟩ := Bool.or_eq_false_iff.mp closed
          obtain ⟨begun, same, one⟩ := recounts session going (past ++ [{ session := session }])
          rw [same, going]
          cases outcome : (step session).1.isOk with
          | false =>
              refine ⟨.moment { session := session } :: (begun ++ []), ?_,
                .passed rfl (.ran command listed (fun _ => heeded) one .done), fun _ => rfl⟩
              rw [List.append_nil, momentsOf_cons, ← List.append_assoc]
              simp only [Bool.false_eq_true, ↓reduceIte]
              rfl
          | true =>
              obtain ⟨more, sameRest, further, fully⟩ :=
                ih (step session).2 (past ++ [{ session := session }] ++ momentsOf begun)
              refine ⟨.moment { session := session } :: (begun ++ more), ?_,
                .passed rfl (.ran command listed (fun _ => heeded) one further),
                fun unskipped => ?_⟩
              · simp only [Bool.false_eq_true, ↓reduceIte]
                rw [sameRest, momentsOf_cons, momentsOf_append]
                simp only [List.append_assoc]
                rfl
              · exact fully fun chapter found =>
                  unskipped chapter (List.mem_cons_of_mem _ (List.mem_append_right _ found))

theorem regardless (enters : List.Forall₂ (Enters host list) told steps) (session : Session σ) :
    Recounts host (.any false list) session (Telling.regardless told)
      (Gleaner.regardless steps) := by
  induction enters generalizing session with
  | nil => exact .pure ()
  | cons first _ ih =>
      obtain ⟨command, listed, recounts⟩ := first
      refine .bind .overdue (.ite (fun _ => .pure ()) fun going => ?_)
      exact .bind (recounts _ (Bool.eq_false_iff.mpr going) |>.ofOne listed).discard (ih _)

theorem pass (enters : List.Forall₂ (Enters host list) told steps) (session : Session σ) :
    Recounts host (.any false list) session (Telling.pass host told) (Interp.pass host steps) :=
  .bindOk (.sayLooking (Interp.countItems_looks host)) fun _ =>
    .bindOk (.sayLooking .run) fun _ => .bindOk (.lift (regardless enters _)) fun _ =>
      .bindOk (.sayLooking (Interp.countItems_looks host)) fun _ => .say rfl

theorem passes (enters : List.Forall₂ (Enters host list) told steps) (goal : Until)
    (scrollsBefore rounds left : Nat) (session : Session σ) :
    Recounts host (.any false list) session
      (Telling.passes host goal told scrollsBefore rounds left)
      (Interp.passes host goal steps scrollsBefore rounds left) := by
  induction left generalizing rounds session with
  | zero => exact .ok _
  | succ left ih =>
      refine .bindOk (.lift .overdue) fun late => .ite (fun _ => .ok _) fun _ => ?_
      refine .bindOk (pass enters _) fun _ => ?_
      refine .bindOk (.sayLooking (Interp.reached_looks host _ _)) fun _ =>
        .ite (fun _ => .ok _) fun _ => ?_
      exact .bindOk (.sayLooking (Interp.noMoreItems_looks host)) fun _ =>
        .ite (fun _ => .ok _) fun _ => ih _ _

/-!
### Commands and recipes
-/

theorem plain {command : Command} (isPlain : command.isPlain = true) (session : Session σ) :
    Recounts host (.one command) session (Telling.command host command) (command.run host) := by
  intro past
  refine ⟨_, ?_, .plain command isPlain⟩
  rw [Telling.command_plain isPlain, momentsOf_cons, momentsOf_cons, ← List.append_assoc]
  rfl

theorem iterated (body : List Command) (skipProcessed : Bool) {session : Session σ}
    (going : session.run.stopped = false) :
    Recounts host (.one (.forEachItem body skipProcessed)) session
      (Telling.command host (.forEachItem body skipProcessed))
      ((Command.forEachItem body skipProcessed).run host) := by
  intro past
  obtain ⟨news, same, _⟩ := Tells.command (.forEachItem body skipProcessed) session going past
  refine ⟨[.iteration body skipProcessed session news], ?_, .iterated body _ ⟨past, same⟩⟩
  rw [same, momentsOf_cons, momentsOf_nil, List.append_nil]
  rfl

theorem chosen {thenBranch elseBranch : List Command} {toldElse : List (Telling σ Outcome)}
    {stepsElse : List (Step σ)} (enters : List.Forall₂ (Enters host thenBranch) told steps)
    (entersElse : List.Forall₂ (Enters host elseBranch) toldElse stepsElse)
    (condition : Condition) (session : Session σ) (past : List (Moment σ)) :
    ∃ chapters, ∃ taken : Bool, Telling.choose host condition told toldElse (session, past) =
        ((Interp.choose host condition steps stepsElse session).1,
          (Interp.choose host condition steps stepsElse session).2, past ++ momentsOf chapters) ∧
      Account host (.any true (if taken then thenBranch else elseBranch)) session chapters
        (Interp.choose host condition steps stepsElse session).2 ∧
      ((∀ chapter ∈ chapters, chapter.session.run.skipping = false) →
        Interp.choose host condition steps stepsElse session =
          Interp.chooseFully host condition steps stepsElse session) := by
  obtain ⟨world, looked⟩ := Interp.evaluate_looks host condition session
  rw [Telling.choose_apply, Interp.choose_apply, Interp.chooseFully_apply]
  rcases ran : Interp.evaluate host condition session with ⟨fault | taken, after⟩
  · refine ⟨[.moment { session := after }], true, rfl, .passed ?_ .done, fun _ => rfl⟩
    rw [show after = { session with world } by simpa [ran] using looked]
  · have still : after.run.skipping = session.run.skipping := by
      rw [show after = { session with world } by simpa [ran] using looked]
    have branch : ∃ chapters, Telling.untilFailure (if taken then told else toldElse)
          (after, past ++ [{ session := after }]) =
        ((Gleaner.untilFailure (if taken then steps else stepsElse) after).1,
          (Gleaner.untilFailure (if taken then steps else stepsElse) after).2,
          past ++ [{ session := after }] ++ momentsOf chapters) ∧
      Account host (.any true (if taken then thenBranch else elseBranch)) after chapters
        (Gleaner.untilFailure (if taken then steps else stepsElse) after).2 ∧
      ((∀ chapter ∈ chapters, chapter.session.run.skipping = false) →
        Gleaner.untilFailure (if taken then steps else stepsElse) after =
          untilStopped (if taken then steps else stepsElse) after) := by
      cases taken with
      | true => exact untilFailure enters after _
      | false => exact untilFailure entersElse after _
    obtain ⟨chapters, same, account, fully⟩ := branch
    refine ⟨.moment { session := after } :: chapters, taken, ?_, .passed still ?_,
      fun unskipped => ?_⟩
    · dsimp only
      rw [same, momentsOf_cons, ← List.append_assoc]
      cases (Gleaner.untilFailure (if taken then steps else stepsElse) after).1 <;> rfl
    · exact account
    · dsimp only
      rw [fully (List.forall_mem_cons.mp unskipped).2]

mutual

theorem command (command : Command) (session : Session σ) (going : session.run.stopped = false) :
    Recounts host (.one command) session (Telling.command host command) (command.run host) := by
  cases command with
  | forEachItem body skipProcessed => exact iterated body skipProcessed going
  | choose condition thenBranch elseBranch =>
      intro past
      obtain ⟨chapters, taken, same, account, fully⟩ := chosen (commands thenBranch)
        (commands elseBranch) condition session.counted
        (past ++ [{ session, starting := some (.choose condition thenBranch elseBranch) }] ++
          [{ session := session.counted }])
      refine ⟨.moment { session, starting := some (.choose condition thenBranch elseBranch) } ::
        .moment { session := session.counted } :: chapters, Telling.attempt_of_body same, ?_⟩
      rw [Command.run, attempt_snd]
      have opens : (Command.choose condition thenBranch elseBranch).Opens true
          (if taken then thenBranch else elseBranch) := by
        cases taken with
        | true => exact .thenBranch
        | false => exact .elseBranch
      refine .opened opens (fun _ _ _ same unskipped => ?_) account
      cases same
      rw [Command.run, attempt_apply, attempt_apply, fully unskipped]
  | repeatUntil body goal =>
      intro past
      have inner : Recounts host (.any false body) session.counted
          (Outcome.ok <$> Telling.repeatUntil host goal (Telling.commands host body) :
            ExceptT Fault (Telling σ) Outcome)
          (Outcome.ok <$> Interp.repeatUntil host goal (Command.steps host body) :
            Interp σ Outcome) :=
        .bindOk (.bindOk (.sayLooking .run) fun _ => passes (commands body) goal _ _ _ _) fun _ =>
          .ok _
      obtain ⟨chapters, same, account⟩ := inner
        (past ++ [{ session, starting := some (.repeatUntil body goal) }] ++
          [{ session := session.counted }])
      refine ⟨.moment { session, starting := some (.repeatUntil body goal) } ::
        .moment { session := session.counted } :: chapters, Telling.attempt_of_body same, ?_⟩
      rw [Command.run, report, attempt_snd]
      exact .opened .body nofun account
  | _ => exact plain rfl session

theorem commands (part : List Command) :
    List.Forall₂ (Enters host part) (Telling.commands host part) (Command.steps host part) := by
  cases part with
  | nil => exact .nil
  | cons first rest =>
      refine .cons ⟨first, List.mem_cons_self, command first⟩ ?_
      exact (commands rest).imp fun _ _ ⟨later, listed, recounts⟩ =>
        ⟨later, List.mem_cons_of_mem first listed, recounts⟩

end

theorem repairAndRetry (failed : Command) (failure : Outcome) (session : Session σ)
    (listed : failed ∈ list)
    (going : failed.bindingKey?.isSome = true → session.run.stopped = false) :
    Recounts host (.any false list) session (Telling.repairAndRetry host failed failure)
      (Session.repairAndRetry host failed failure) := by
  obtain ⟨world, reached⟩ := Session.proposal_watches host failed failure session
  refine .bind (.tell (by rw [reached])) (.ite (fun _ => .pure _) fun proposed => ?_)
  have going : session.run.stopped = false :=
    going (Session.bindingKey_of_proposal fun empty => proposed (List.isEmpty_iff.mpr empty))
  rw [reached]
  refine .bind (.tell rfl) ?_
  generalize attempted : Session.patch host.clock _ _ = answer
  cases answer with
  | error fault => exact .pure _
  | ok patched =>
      have accepted : ({ session with world } : Session σ).patch host.clock _ = .ok patched :=
        attempted
      have kept : patched.run = session.run := by
        obtain ⟨bindings, rfl⟩ := Session.patch_bindings accepted
        rfl
      have still : patched.run.countFix.stopped = false := kept ▸ going
      refine .bind (.tell (show patched.run.skipping = session.run.skipping by rw [kept]))
        (.andThen (.ofOne (command failed _ still) listed) fun outcome => ?_)
      cases outcome with
      | ok report => exact .pure _
      | failed error repairable => exact .pure _

theorem runTop {top : Command} (listed : top ∈ list) {session : Session σ}
    (going : session.run.stopped = false) :
    Recounts host (.any false list) session (Telling.runTop host top)
      (Session.runTop host top) := by
  refine .bind ((command top session going).ofOne listed) ?_
  cases outcome : (top.run host session).1 with
  | ok report => exact .pure _
  | failed error repairable =>
      exact repairAndRetry _ _ _ listed fun keyed =>
        (top.run_stopped_of_key host keyed session).trans going

theorem runAll {part : List Command} (listed : part ⊆ list) (session : Session σ) :
    Recounts host (.any false list) session (Telling.runAll host part)
      (Session.runAll host part) := by
  induction part generalizing session with
  | nil => exact .pure none
  | cons first rest ih =>
      obtain ⟨here, later⟩ := List.cons_subset.mp listed
      refine .bind .overdue (.ite (fun _ => .pure none) fun going => ?_)
      refine .andThen (runTop here (Bool.eq_false_iff.mpr going)) fun outcome => ?_
      cases outcome with
      | ok report => exact ih later _
      | failed error repairable => exact .pure _

/-- Chapters that begin with a first program open with the session after that. -/
theorem opening {first : StateM (Session σ) α} {toldNext : α → Telling σ β}
    {next : α → StateM (Session σ) β}
    (nextRecounts : ∀ value after,
      Recounts host (.any false list) after (toldNext value) (next value))
    (session : Session σ) :
    ∃ chapters, (Telling.tell first >>= toldNext) (session, []) =
        (((first >>= next) session).1, ((first >>= next) session).2,
          { session := (first session).2 } :: momentsOf chapters) ∧
      Account host (.any false list) (first session).2 chapters ((first >>= next) session).2 :=
  nextRecounts _ _ [{ session := (first session).2 }]

/-- The chapters of a run begin with the session that begins it. -/
theorem execute (recipe : Recipe) (session : Session σ) :
    ∃ chapters, Telling.execute host recipe (session, []) =
        ((Session.execute host recipe session).1, (Session.execute host recipe session).2,
          { session := (Session.begin host recipe.limits session).2 } :: momentsOf chapters) ∧
      Account host (.any false recipe.commands) (Session.begin host recipe.limits session).2
        chapters (Session.execute host recipe session).2 := by
  refine opening (fun begun after => ?_) session
  cases begun with
  | error fault => exact .pure _
  | ok _ =>
      exact .andThen (runAll (List.Subset.refl _) _) fun error =>
        .andThen (.tell rfl) fun _ => .pure _

end Recounts

end Gleaner
