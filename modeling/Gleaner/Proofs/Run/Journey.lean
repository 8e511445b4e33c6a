import Gleaner.Proofs.Run.Chronicle
import Gleaner.Proofs.Run.Deed
import Mathlib.Data.List.Forall2

/-!
# What a chronicle tells

The run that keeps a chronicle is the run itself, and its chronicle is a journey: commands
start only while the run is not stopped, a command counts where it starts, and between the
commands nothing happens but the moves listed here.
-/

set_option autoImplicit false

namespace Gleaner

variable {σ α β : Type}

/-- What happens in a run between its commands. -/
inductive Move (host : Host σ) : Session σ → Session σ → Prop where
  | looked {session : Session σ} (world : σ) : Move host session { session with world }
  | timeChecked {session : Session σ} : Move host session session.checkTime
  | itemEntered {session : Session σ} (item : CurrentItem) :
      Move host session
        { session with run := { session.run.enter item with skipping := false } }
  | bodyLeft {session : Session σ} :
      Move host session { session with run := { session.run with skipping := false } }
  | passEnded {session : Session σ} (staleRounds : Nat) :
      Move host session { session with run := { session.run with staleRounds } }
  | repaired {session patched : Session σ} (changes : Fields) :
      session.run.stopped = false → session.patch host.clock changes = .ok patched →
      Move host session { patched with run := patched.run.countFix }
  | concluded {session : Session σ} (durationMs : Float) :
      Move host session
        { session with run := { session.run with stats :=
          { session.run.stats with durationMs } } }

/-- The moments on the way from one session to another. -/
inductive Journey (host : Host σ) : Session σ → List (Moment σ) → Session σ → Prop where
  | done {session : Session σ} : Journey host session [] session
  | moved {session next final : Session σ} {rest : List (Moment σ)} :
      Move host session next → Journey host next rest final →
      Journey host session ({ session := next } :: rest) final
  | ran {session final : Session σ} {rest : List (Moment σ)} (command : Command) :
      command.isPlain = true → session.run.stopped = false →
      Journey host (command.run host session).2 rest final →
      Journey host session
        ({ session, starting := some command } ::
          { session := (command.run host session).2 } :: rest) final
  | opened {session final : Session σ} {rest : List (Moment σ)} (command : Command) :
      command.isPlain = false → session.run.stopped = false →
      Journey host { session with run := session.run.countCommand } rest final →
      Journey host session
        ({ session, starting := some command } ::
          { session := { session with run := session.run.countCommand } } :: rest) final

theorem Journey.trans {host : Host σ} {first middle last : Session σ}
    {news more : List (Moment σ)} (journey : Journey host first news middle)
    (further : Journey host middle more last) : Journey host first (news ++ more) last := by
  induction journey with
  | done => exact further
  | moved move _ ih => exact .moved move (ih further)
  | ran command plain going _ ih => exact .ran command plain going (ih further)
  | opened command outer going _ ih => exact .opened command outer going (ih further)

/-- What every move and every command keeps holds at each moment of a journey and at its end. -/
theorem Journey.preserves {host : Host σ} (holds : Session σ → Prop)
    (moves : ∀ {session next : Session σ}, holds session → Move host session next → holds next)
    (runs : ∀ {session : Session σ} (command : Command), command.isPlain = true →
      holds session → holds (command.run host session).2)
    (opens : ∀ {session : Session σ}, holds session →
      holds { session with run := session.run.countCommand })
    {session final : Session σ} {news : List (Moment σ)}
    (journey : Journey host session news final) (here : holds session) :
    (∀ moment ∈ news, holds moment.session) ∧ holds final := by
  induction journey with
  | done => exact ⟨List.forall_mem_nil _, here⟩
  | moved move _ ih =>
      have next := moves here move
      obtain ⟨along, last⟩ := ih next
      exact ⟨List.forall_mem_cons.mpr ⟨next, along⟩, last⟩
  | ran command plain _ _ ih =>
      have next := runs command plain here
      obtain ⟨along, last⟩ := ih next
      exact ⟨List.forall_mem_cons.mpr ⟨here, List.forall_mem_cons.mpr ⟨next, along⟩⟩, last⟩
  | opened command _ _ _ ih =>
      have next := opens here
      obtain ⟨along, last⟩ := ih next
      exact ⟨List.forall_mem_cons.mpr ⟨here, List.forall_mem_cons.mpr ⟨next, along⟩⟩, last⟩

/-- Telling of a program from a session: the same result, the same session after it, and the
chronicle of a journey there. -/
def Tells (host : Host σ) (session : Session σ) (told : Telling σ α)
    (prog : StateM (Session σ) α) : Prop :=
  ∀ past, ∃ news, told (session, past) = ((prog session).1, (prog session).2, past ++ news) ∧
    Journey host session news (prog session).2

namespace Tells

variable {host : Host σ} {session : Session σ}

theorem pure (value : α) : Tells host session (Pure.pure value) (Pure.pure value) :=
  fun past => ⟨[], by rw [List.append_nil]; rfl, .done⟩

theorem bind {told : Telling σ α} {prog : StateM (Session σ) α} {toldNext : α → Telling σ β}
    {next : α → StateM (Session σ) β} (tells : Tells host session told prog)
    (nextTells : Tells host (prog session).2 (toldNext (prog session).1) (next (prog session).1)) :
    Tells host session (told >>= toldNext) (prog >>= next) := by
  intro past
  obtain ⟨news, same, journey⟩ := tells past
  obtain ⟨more, sameNext, further⟩ := nextTells (past ++ news)
  refine ⟨news ++ more, ?_, journey.trans further⟩
  calc (told >>= toldNext) (session, past)
      = (toldNext (told (session, past)).1) (told (session, past)).2 := rfl
    _ = toldNext (prog session).1 ((prog session).2, past ++ news) := by rw [same]
    _ = _ := by rw [sameNext, List.append_assoc]; rfl

theorem andThen {told : Telling σ α} {prog : StateM (Session σ) α} {toldNext : α → Telling σ β}
    {next : α → StateM (Session σ) β} (tells : Tells host session told prog)
    (nextTells : ∀ value, Tells host (prog session).2 (toldNext value) (next value)) :
    Tells host session (told >>= toldNext) (prog >>= next) :=
  tells.bind (nextTells _)

theorem ite {condition : Prop} [Decidable condition] {told toldElse : Telling σ α}
    {prog progElse : StateM (Session σ) α} (tells : condition → Tells host session told prog)
    (tellsElse : ¬condition → Tells host session toldElse progElse) :
    Tells host session (if condition then told else toldElse)
      (if condition then prog else progElse) := by
  split
  next holds => exact tells holds
  next fails => exact tellsElse fails

theorem tell {prog : StateM (Session σ) α} (move : Move host session (prog session).2) :
    Tells host session (Telling.tell prog) prog :=
  fun _ => ⟨[{ session := (prog session).2 }], rfl, .moved move .done⟩

theorem looking {prog : StateM (Session σ) α} (looks : ∃ world,
    (prog session).2 = { session with world }) : Tells host session (Telling.tell prog) prog := by
  obtain ⟨world, reached⟩ := looks
  exact .tell (reached ▸ .looked world)

theorem overdue : Tells host session (Telling.tell Gleaner.overdue) Gleaner.overdue :=
  .tell .timeChecked

theorem discard {told : Telling σ α} {prog : StateM (Session σ) α}
    (tells : Tells host session told prog) :
    Tells host session (Functor.discard told) (Functor.discard prog) :=
  @Tells.bind _ _ _ _ _ _ _ (fun _ => Pure.pure ()) (fun _ => Pure.pure ()) tells (.pure ())

/-!
## Programs that may fail
-/

theorem ok (value : α) :
    Tells host session (Pure.pure value : ExceptT Fault (Telling σ) α)
      (Pure.pure value : Interp σ α) :=
  .pure (Except.ok value)

theorem say {prog : Interp σ α} (move : Move host session (prog session).2) :
    Tells host session (Telling.say prog) prog :=
  @Tells.tell _ _ _ _ (ExceptT.run prog) move

theorem sayLooking {prog : Interp σ α} (looks : prog.Looks) :
    Tells host session (Telling.say prog) prog :=
  .looking (looks session)

theorem bindOk {told : ExceptT Fault (Telling σ) α} {prog : Interp σ α}
    {toldNext : α → ExceptT Fault (Telling σ) β} {next : α → Interp σ β}
    (tells : Tells host session told prog)
    (nextTells : ∀ value, Tells host (prog session).2 (toldNext value) (next value)) :
    Tells host session (told >>= toldNext : ExceptT Fault (Telling σ) β)
      (prog >>= next : Interp σ β) := by
  refine @andThen _ _ _ _ _ _ _ (ExceptT.bindCont toldNext) (ExceptT.bindCont next) tells
    fun result => ?_
  cases result with
  | ok value => exact nextTells value
  | error fault => exact .pure _

theorem lift {told : Telling σ α} {prog : StateM (Session σ) α}
    (tells : Tells host session told prog) :
    Tells host session (liftM told : ExceptT Fault (Telling σ) α) (liftM prog : Interp σ α) :=
  @Tells.bind _ _ _ _ _ _ _ (fun value => Pure.pure (Except.ok value))
    (fun value => Pure.pure (Except.ok value)) tells (.pure _)

/-!
## Flow of control
-/

/-- A told step that tells of a step wherever commands may start. -/
def Follows (host : Host σ) (told : Telling σ Outcome) (step : Step σ) : Prop :=
  ∀ session, session.run.stopped = false → Tells host session told step

variable {told : List (Telling σ Outcome)} {steps : List (Step σ)}

theorem untilFailure (follows : List.Forall₂ (Follows host) told steps)
    (session : Session σ) :
    Tells host session (Telling.untilFailure told) (Gleaner.untilFailure steps) := by
  induction follows generalizing session with
  | nil => exact .pure none
  | cons first _ ih =>
      refine .bind (.looking ⟨session.world, rfl⟩) (.ite (fun _ => .pure none) fun going => ?_)
      have going : ¬(session.run.stopped || session.run.skipping) = true := going
      rw [Bool.or_eq_true, not_or, Bool.not_eq_true, Bool.not_eq_true] at going
      exact .bind (first session going.1) (.ite (fun _ => ih _) fun _ => .pure _)

theorem regardless (follows : List.Forall₂ (Follows host) told steps) (session : Session σ) :
    Tells host session (Telling.regardless told) (Gleaner.regardless steps) := by
  induction follows generalizing session with
  | nil => exact .pure ()
  | cons first _ ih =>
      refine .bind .overdue (.ite (fun _ => .pure ()) fun going => ?_)
      exact .bind (first _ (Bool.eq_false_iff.mpr going)).discard (ih _)

theorem forItems (follows : List.Forall₂ (Follows host) told steps) (skipProcessed : Bool)
    (items : List ListItem) (handled skipped : Nat) (session : Session σ) :
    Tells host session (Telling.forItems skipProcessed told handled skipped items)
      (Interp.forItems skipProcessed steps handled skipped items) := by
  induction items generalizing handled skipped session with
  | nil => exact .pure _
  | cons item rest ih =>
      refine .bindOk (.lift .overdue) fun late => .ite (fun _ => .ok _) fun _ => ?_
      refine .bindOk (.sayLooking (Interp.Looks.bindings.bind fun b => .liftExcept _))
        fun current => .bindOk (.sayLooking .run) fun run => .ite (fun _ => ih _ _ _) fun _ => ?_
      exact .bindOk (.say (.itemEntered current)) fun _ =>
        .bindOk (.bindOk (.lift (untilFailure follows _)) fun _ => .ok _) fun _ => ih _ _ _

theorem forEachItem (follows : List.Forall₂ (Follows host) told steps) (skipProcessed : Bool)
    (session : Session σ) :
    Tells host session (Telling.forEachItem host skipProcessed told)
      (Interp.forEachItem host skipProcessed steps) := by
  refine .bindOk (.sayLooking (Interp.listItems_looks host)) fun items => ?_
  cases items with
  | nil => exact .pure _
  | cons item rest =>
      exact .bindOk (forItems follows _ _ _ _ _) fun report =>
        .bindOk (.say .bodyLeft) fun _ => .ok report

theorem choose {toldElse : List (Telling σ Outcome)} {stepsElse : List (Step σ)}
    (follows : List.Forall₂ (Follows host) told steps)
    (followsElse : List.Forall₂ (Follows host) toldElse stepsElse) (condition : Condition)
    (session : Session σ) :
    Tells host session (Telling.choose host condition told toldElse)
      (Interp.choose host condition steps stepsElse) := by
  refine .bindOk (.sayLooking (Interp.evaluate_looks host condition)) fun taken => ?_
  have branch (session : Session σ) :
      Tells host session (Telling.untilFailure (if taken then told else toldElse))
        (Gleaner.untilFailure (if taken then steps else stepsElse)) := by
    cases taken with
    | true => exact untilFailure follows session
    | false => exact untilFailure followsElse session
  refine .bindOk (.lift (branch _)) fun failure => ?_
  cases failure with
  | some failure => exact .ok failure
  | none => exact .ok _

theorem pass (follows : List.Forall₂ (Follows host) told steps) (session : Session σ) :
    Tells host session (Telling.pass host told) (Interp.pass host steps) :=
  .bindOk (.sayLooking (Interp.countItems_looks host)) fun _ =>
    .bindOk (.sayLooking .run) fun _ => .bindOk (.lift (regardless follows _)) fun _ =>
      .bindOk (.sayLooking (Interp.countItems_looks host)) fun _ => .say (.passEnded _)

theorem passes (follows : List.Forall₂ (Follows host) told steps) (goal : Until)
    (scrollsBefore rounds left : Nat) (session : Session σ) :
    Tells host session (Telling.passes host goal told scrollsBefore rounds left)
      (Interp.passes host goal steps scrollsBefore rounds left) := by
  induction left generalizing rounds session with
  | zero => exact .ok _
  | succ left ih =>
      refine .bindOk (.lift .overdue) fun late => .ite (fun _ => .ok _) fun _ => ?_
      refine .bindOk (pass follows _) fun _ => ?_
      refine .bindOk (.sayLooking (Interp.reached_looks host _ _)) fun _ =>
        .ite (fun _ => .ok _) fun _ => ?_
      exact .bindOk (.sayLooking (Interp.noMoreItems_looks host)) fun _ =>
        .ite (fun _ => .ok _) fun _ => ih _ _

theorem repeatUntil (follows : List.Forall₂ (Follows host) told steps) (goal : Until)
    (session : Session σ) :
    Tells host session (Telling.repeatUntil host goal told)
      (Interp.repeatUntil host goal steps) :=
  .bindOk (.sayLooking .run) fun _ => passes follows goal _ _ _ _

/-!
## Commands and recipes
-/

/-- A command that runs other commands counts where it starts. -/
theorem counting {toldNext : Telling σ Outcome} {next : Step σ} {command : Command}
    (outer : command.isPlain = false)
    (nextTells : ∀ session, Tells host session toldNext next) :
    Follows host
      (Telling.starting command do
        Telling.tell (modify fun session => { session with run := session.run.countCommand })
        toldNext)
      (do
        modify fun session => { session with run := session.run.countCommand }
        next : StateM (Session σ) Outcome) := by
  intro session going past
  obtain ⟨news, same, journey⟩ := nextTells { session with run := session.run.countCommand }
    (past ++ [{ session, starting := some command }] ++
      [{ session := { session with run := session.run.countCommand } }])
  refine ⟨_ :: _ :: news, ?_, .opened command outer going journey⟩
  refine same.trans ?_
  rw [List.append_assoc, List.append_assoc]
  rfl

theorem attempt {toldBody : ExceptT Fault (Telling σ) Outcome} {body : Interp σ Outcome}
    (tells : ∀ session, Tells host session toldBody body) {command : Command}
    (outer : command.isPlain = false) :
    Follows host (Telling.attempt command toldBody) (Gleaner.attempt body) := by
  refine counting outer fun session => .andThen (tells session) fun result => ?_
  cases result with
  | ok outcome => exact .pure _
  | error fault => exact .pure _

theorem plain {command : Command} (isPlain : command.isPlain = true) :
    Follows host (Telling.command host command) (command.run host) := by
  have noted : Telling.command host command =
      Telling.starting command (Telling.tell (command.run host)) := by
    cases command <;> first | rfl | cases isPlain
  intro session going past
  refine ⟨_, ?_, .ran command isPlain going .done⟩
  rw [noted]
  show (_, _, past ++ _ ++ _) = _
  rw [List.append_assoc]
  rfl

mutual

theorem command (command : Command) :
    Follows host (Telling.command host command) (command.run host) := by
  cases command with
  | forEachItem body skipProcessed =>
      exact attempt (fun session => .bindOk (forEachItem (commands body) _ _) fun _ => .ok _) rfl
  | choose condition thenBranch elseBranch =>
      exact attempt (choose (commands thenBranch) (commands elseBranch) condition) rfl
  | repeatUntil body goal =>
      exact attempt (fun session => .bindOk (repeatUntil (commands body) _ _) fun _ => .ok _) rfl
  | _ => exact plain (by rfl)

theorem commands (list : List Command) :
    List.Forall₂ (Follows host) (Telling.commands host list) (Command.steps host list) := by
  cases list with
  | nil => exact .nil
  | cons first rest => exact .cons (command first) (commands rest)

end

/-!
## Repair and the whole recipe
-/

theorem repairAndRetry (failed : Command) (failure : Outcome) (session : Session σ)
    (going : failed.bindingKey?.isSome = true → session.run.stopped = false) :
    Tells host session (Telling.repairAndRetry host failed failure)
      (Session.repairAndRetry host failed failure) := by
  obtain ⟨world, reached⟩ := Session.proposal_watches host failed failure session
  refine .bind (.looking ⟨world, reached⟩) (.ite (fun _ => .pure _) fun proposed => ?_)
  have going : session.run.stopped = false :=
    going (Session.bindingKey_of_proposal fun empty => proposed (List.isEmpty_iff.mpr empty))
  rw [reached]
  refine .bind (.looking ⟨world, rfl⟩) ?_
  generalize attempted : Session.patch host.clock _ _ = answer
  cases answer with
  | error fault => exact .pure _
  | ok patched =>
      have accepted : ({ session with world } : Session σ).patch host.clock _ = .ok patched :=
        attempted
      have still : patched.run.countFix.stopped = false := by
        obtain ⟨bindings, rfl⟩ := Session.patch_bindings accepted
        exact going
      refine .bind (.tell (.repaired _ going accepted))
        (.andThen (command failed _ still) fun outcome => ?_)
      cases outcome with
      | ok report => exact .pure _
      | failed error repairable => exact .pure _

theorem runTop (top : Command) : Follows host (Telling.runTop host top) (Session.runTop host top) := by
  intro session going
  refine .bind (command top session going) ?_
  cases outcome : (top.run host session).1 with
  | ok report => exact .pure _
  | failed error repairable =>
      exact repairAndRetry _ _ _ fun keyed =>
        (top.run_stopped_of_key host keyed session).trans going

theorem runAll (list : List Command) (session : Session σ) :
    Tells host session (Telling.runAll host list) (Session.runAll host list) := by
  induction list generalizing session with
  | nil => exact .pure none
  | cons first rest ih =>
      refine .bind .overdue (.ite (fun _ => .pure none) fun going => ?_)
      refine .andThen (runTop first _ (Bool.eq_false_iff.mpr going)) fun outcome => ?_
      cases outcome with
      | ok report => exact ih _
      | failed error repairable => exact .pure _

/-- A chronicle that begins with a first program opens with the session after that. -/
theorem opening {first : StateM (Session σ) α} {toldNext : α → Telling σ β}
    {next : α → StateM (Session σ) β}
    (nextTells : ∀ value after, Tells host after (toldNext value) (next value))
    (session : Session σ) :
    ∃ news, (Telling.tell first >>= toldNext) (session, []) =
        (((first >>= next) session).1, ((first >>= next) session).2,
          { session := (first session).2 } :: news) ∧
      Journey host (first session).2 news ((first >>= next) session).2 :=
  nextTells _ _ [{ session := (first session).2 }]

/-- The chronicle of a run opens with the session that begins it. -/
theorem execute (recipe : Recipe) (session : Session σ) :
    ∃ news, Telling.execute host recipe (session, []) =
        ((Session.execute host recipe session).1, (Session.execute host recipe session).2,
          { session := (Session.begin host recipe.limits session).2 } :: news) ∧
      Journey host (Session.begin host recipe.limits session).2 news
        (Session.execute host recipe session).2 := by
  refine opening (fun begun after => ?_) session
  cases begun with
  | error fault => exact .pure _
  | ok _ =>
      exact .andThen (runAll _ _) fun error => .andThen (.tell (.concluded _)) fun _ => .pure _

end Tells

end Gleaner
