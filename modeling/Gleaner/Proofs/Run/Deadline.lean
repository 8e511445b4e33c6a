import Gleaner.Proofs.Run.Stop
import Gleaner.Rehearsal.World

/-!
# The deadline of a run

A run looks at its clock before each command of the recipe itself, before each item of an
iteration, before each pass of a repetition and before each command of its body. It does not
look before the later commands of the body of an iteration, before those of a branch, nor
before the second try of a command after a repair; these may start when the time is up, and no
others do. A run that its deadline stopped fails, and says so unless a command failed.
-/

set_option autoImplicit false

namespace Gleaner

variable {σ α β : Type}

/-- The deadline of the run is reached. -/
def Session.Late (session : Session σ) : Prop :=
  session.deadline.any (· session.world) = true

/-- The commands that a command runs without a look at the clock: the body of an iteration from
its second command on, and the branches of a choice. -/
def Command.unwatched : Command → List Command
  | .forEachItem body _ => body.tail
  | .choose _ thenBranch elseBranch => thenBranch ++ elseBranch
  | _ => []

/-- A command has started in the past. -/
def Opened (past : List (Moment σ)) (command : Command) : Prop :=
  ∃ moment ∈ past, moment.starting = some command

/-- Why a command may start late: it belongs to one that has started and that does not look at
the clock before it, or it has started before and the last thing that happened is a repair. -/
inductive Excused (host : Host σ) (past : List (Moment σ)) (session : Session σ)
    (command : Command) : Prop where
  | unwatched (outer : Command) : Opened past outer → command ∈ outer.unwatched →
      Excused host past session command
  | retried (earlier : List (Moment σ)) (asked patched : Session σ) (changes : Fields) :
      Opened earlier command → past = earlier ++ [{ session := asked }, { session := session }] →
      asked.patch host.clock changes = .ok patched →
      session = { patched with run := patched.run.countFix } →
      Excused host past session command

/-- Of the news after a past, every late start is excused by what came before it. -/
inductive Punctual (host : Host σ) : List (Moment σ) → List (Moment σ) → Prop where
  | done {past : List (Moment σ)} : Punctual host past []
  | noted {past rest : List (Moment σ)} {moment : Moment σ} :
      (∀ command, moment.starting = some command → moment.session.Late →
        Excused host past moment.session command) →
      Punctual host (past ++ [moment]) rest → Punctual host past (moment :: rest)

namespace Punctual

variable {host : Host σ} {past news more : List (Moment σ)}

theorem quiet (past : List (Moment σ)) (session : Session σ) :
    Punctual host past [{ session := session }] :=
  .noted nofun .done

theorem append (punctual : Punctual host past news) (further : Punctual host (past ++ news) more) :
    Punctual host past (news ++ more) := by
  induction punctual with
  | done => rwa [List.append_nil] at further
  | noted excused _ ih =>
      refine .noted excused (ih ?_)
      rwa [List.append_assoc, List.singleton_append]

/-- Wherever a command starts late, it is excused by all that came before. -/
theorem excused {before after : List (Moment σ)} {moment : Moment σ} {command : Command}
    (punctual : Punctual host past (before ++ moment :: after))
    (starts : moment.starting = some command) (late : moment.session.Late) :
    Excused host (past ++ before) moment.session command := by
  induction before generalizing past with
  | nil =>
      cases punctual with
      | noted excused _ =>
          rw [List.append_nil]
          exact excused command starts late
  | cons first before ih =>
      cases punctual with
      | noted _ rest =>
          have later := ih rest
          rwa [List.append_assoc, List.singleton_append] at later

end Punctual

theorem Opened.append {past : List (Moment σ)} {command : Command} (opened : Opened past command)
    (news : List (Moment σ)) : Opened (past ++ news) command := by
  obtain ⟨moment, found, starts⟩ := opened
  exact ⟨moment, List.mem_append_left news found, starts⟩

/-- A look at the clock that finds the run going finds it in time. -/
theorem Session.checkTime_in_time {session : Session σ}
    (going : session.checkTime.run.stopped = false) : ¬session.checkTime.Late := by
  rcases session.checkTime_cases with ⟨stays, same⟩ | ⟨-, same⟩
  · rw [same] at going ⊢
    rcases stays with stopped | early
    · exact absurd stopped (Bool.eq_false_iff.mp going)
    · exact Bool.eq_false_iff.mp early
  · rw [same] at going
    cases going

/-!
## Told programs
-/

/-- From a session and a past, a told program adds news that are punctual. -/
def Timely (host : Host σ) (told : Telling σ α) (session : Session σ) (past : List (Moment σ)) :
    Prop :=
  ∃ value after news, told (session, past) = (value, after, past ++ news) ∧
    Punctual host past news

/-- A told step that starts with a command, and is timely whenever that start is. -/
def Starts (host : Host σ) (command : Command) (step : Telling σ Outcome) : Prop :=
  ∀ session past, (session.Late → Excused host past session command) →
    ∃ value after rest,
      step (session, past) =
        (value, after, past ++ { session, starting := some command } :: rest) ∧
      Punctual host past ({ session, starting := some command } :: rest)

namespace Timely

variable {host : Host σ} {session : Session σ} {past : List (Moment σ)}

theorem pure (value : α) : Timely host (Pure.pure value) session past :=
  ⟨value, session, [], by rw [List.append_nil]; rfl, .done⟩

theorem bind {told : Telling σ α} {next : α → Telling σ β} (timely : Timely host told session past)
    (nextTimely : ∀ value after news, told (session, past) = (value, after, past ++ news) →
      Timely host (next value) after (past ++ news)) :
    Timely host (told >>= next) session past := by
  obtain ⟨value, after, news, same, punctual⟩ := timely
  obtain ⟨result, final, more, sameNext, further⟩ := nextTimely value after news same
  refine ⟨result, final, news ++ more, ?_, punctual.append further⟩
  calc (told >>= next) (session, past)
      = (next (told (session, past)).1) (told (session, past)).2 := rfl
    _ = next value (after, past ++ news) := by rw [same]
    _ = _ := by rw [sameNext, List.append_assoc]

theorem andThen {told : Telling σ α} {next : α → Telling σ β}
    (timely : Timely host told session past)
    (nextTimely : ∀ value after news, Timely host (next value) after (past ++ news)) :
    Timely host (told >>= next) session past :=
  timely.bind fun value after news _ => nextTimely value after news

theorem ite {condition : Prop} [Decidable condition] {told toldElse : Telling σ α}
    (timely : condition → Timely host told session past)
    (timelyElse : ¬condition → Timely host toldElse session past) :
    Timely host (if condition then told else toldElse) session past := by
  split
  next holds => exact timely holds
  next fails => exact timelyElse fails

theorem tell (prog : StateM (Session σ) α) : Timely host (Telling.tell prog) session past :=
  ⟨_, _, _, rfl, .quiet past _⟩

/-- A noted program, then what follows from its answer and the session after it. -/
theorem tellThen {prog : StateM (Session σ) α} {next : α → Telling σ β}
    (nextTimely : Timely host (next (prog session).1) (prog session).2
      (past ++ [{ session := (prog session).2 }])) :
    Timely host (Telling.tell prog >>= next) session past := by
  obtain ⟨result, final, more, sameNext, further⟩ := nextTimely
  refine ⟨result, final, _ :: more, ?_, (Punctual.quiet past _).append further⟩
  exact sameNext.trans (by rw [List.append_assoc]; rfl)

/-- A look at the clock, after which the run is over or in time. -/
theorem checked {next : Bool → Telling σ β}
    (spent : ∀ after news, Timely host (next true) after (past ++ news))
    (going : ∀ after news, ¬after.Late → Timely host (next false) after (past ++ news)) :
    Timely host (Telling.tell overdue >>= next) session past := by
  refine tellThen ?_
  show Timely host (next session.checkTime.run.stopped) session.checkTime _
  cases stopped : session.checkTime.run.stopped with
  | true => exact spent _ _
  | false => exact going _ _ (Session.checkTime_in_time stopped)

theorem discard {told : Telling σ α} (timely : Timely host told session past) :
    Timely host (Functor.discard told) session past :=
  @andThen _ _ _ _ _ _ _ (fun _ => Pure.pure ()) timely fun _ _ _ => .pure ()

theorem starting {command : Command} {next : Telling σ Outcome}
    (timely : ∀ session past, Opened past command → Timely host next session past) :
    Starts host command (Telling.starting command next) := by
  intro session past excused
  obtain ⟨value, after, rest, same, punctual⟩ :=
    timely session (past ++ [{ session, starting := some command }])
      ⟨_, List.mem_append_right past List.mem_cons_self, rfl⟩
  refine ⟨value, after, rest, same.trans (by rw [List.append_assoc]; rfl), ?_⟩
  refine .noted (fun started starts late => ?_) punctual
  cases starts
  exact excused late

/-!
## Programs that may fail
-/

theorem ok (value : α) :
    Timely host (Pure.pure value : ExceptT Fault (Telling σ) α) session past :=
  .pure (Except.ok value)

theorem bindOk {told : ExceptT Fault (Telling σ) α} {next : α → ExceptT Fault (Telling σ) β}
    (timely : Timely host told session past)
    (nextTimely : ∀ value after news, Timely host (next value) after (past ++ news)) :
    Timely host (told >>= next : ExceptT Fault (Telling σ) β) session past := by
  refine @andThen _ _ _ _ _ _ _ (ExceptT.bindCont next) timely fun result after news => ?_
  cases result with
  | ok value => exact nextTimely value after news
  | error fault => exact .pure _

theorem say (prog : Interp σ α) : Timely host (Telling.say prog) session past :=
  @Timely.tell _ _ _ _ _ (ExceptT.run prog)

theorem sayThen {prog : Interp σ α} {next : α → ExceptT Fault (Telling σ) β}
    (nextTimely : ∀ value news, Timely host (next value) (prog session).2 (past ++ news)) :
    Timely host (Telling.say prog >>= next : ExceptT Fault (Telling σ) β) session past := by
  refine @tellThen _ _ _ _ _ _ (ExceptT.run prog) (ExceptT.bindCont next) ?_
  show Timely host (ExceptT.bindCont next (prog session).1) (prog session).2 _
  cases (prog session).1 with
  | ok value => exact nextTimely value _
  | error fault => exact .pure _

theorem lift {told : Telling σ α} (timely : Timely host told session past) :
    Timely host (liftM told : ExceptT Fault (Telling σ) α) session past :=
  @andThen _ _ _ _ _ _ _ (fun value => Pure.pure (Except.ok value)) timely fun _ _ _ => .pure _

theorem checkedOk {next : Bool → ExceptT Fault (Telling σ) β}
    (spent : ∀ after news, Timely host (next true) after (past ++ news))
    (going : ∀ after news, ¬after.Late → Timely host (next false) after (past ++ news)) :
    Timely host ((liftM (Telling.tell overdue : Telling σ Bool) : ExceptT Fault (Telling σ) Bool)
      >>= next : ExceptT Fault (Telling σ) β) session past :=
  @checked _ _ _ _ _ (fun value => ExceptT.bindCont next (Except.ok value)) spent going

/-!
## Flow of control
-/

variable {list : List Command} {told : List (Telling σ Outcome)}

theorem ofStarts {command : Command} {step : Telling σ Outcome} (starts : Starts host command step)
    (excused : session.Late → Excused host past session command) :
    Timely host step session past := by
  obtain ⟨value, after, rest, same, punctual⟩ := starts session past excused
  exact ⟨value, after, _, same, punctual⟩

/-- Steps run with no look at the clock are timely when the first starts in time or belongs to a
command that has started, as all others do. -/
theorem untilFailure (starts : List.Forall₂ (Starts host) list told) {outer : Command}
    (opened : Opened past outer)
    (first : session.Late → ∀ command ∈ list.head?, command ∈ outer.unwatched)
    (others : ∀ command ∈ list.tail, command ∈ outer.unwatched) :
    Timely host (Telling.untilFailure told) session past := by
  induction starts generalizing session past with
  | nil => exact .pure none
  | @cons command step rest steps start _ ih =>
      refine .tellThen (.ite (fun _ => .pure none) fun _ => ?_)
      have opened := opened.append [{ session := session }]
      refine .andThen (.ofStarts start fun late => .unwatched outer opened (first late _ rfl))
        fun outcome after news => .ite (fun _ => ?_) fun _ => .pure _
      refine ih (opened.append news) (fun _ next found => others next ?_) fun next found =>
        others next (List.mem_of_mem_tail found)
      exact List.mem_of_mem_head? found

theorem regardless (starts : List.Forall₂ (Starts host) list told) (session : Session σ)
    (past : List (Moment σ)) : Timely host (Telling.regardless told) session past := by
  induction starts generalizing session past with
  | nil => exact .pure ()
  | cons start _ ih =>
      refine .checked (fun _ _ => .pure ()) fun after news inTime => ?_
      exact .andThen (Timely.discard (.ofStarts start fun late => absurd late inTime))
        fun _ _ _ => ih _ _

theorem toCurrent_stays (item : ListItem) (session : Session σ) :
    ((do liftM ((← Interp.bindings).toCurrent item) : Interp σ CurrentItem) session).2 =
      session := by
  simp only [Interp.bind_apply, Interp.bindings_apply, Interp.liftExcept_apply]

theorem forItems (starts : List.Forall₂ (Starts host) list told) {skipProcessed : Bool}
    (items : List ListItem) (handled skipped : Nat) (session : Session σ)
    (past : List (Moment σ)) (opened : Opened past (.forEachItem list skipProcessed)) :
    Timely host (Telling.forItems skipProcessed told handled skipped items) session past := by
  induction items generalizing handled skipped session past with
  | nil => exact .pure _
  | cons item rest ih =>
      refine .checkedOk (fun _ _ => .ok _) fun after news inTime => ?_
      refine .sayThen fun current more => ?_
      rw [toCurrent_stays]
      refine .sayThen fun run yetMore => ?_
      have opened := ((opened.append news).append more).append yetMore
      refine .ite (fun _ => ih _ _ _ _ opened) fun _ => .sayThen fun _ last => ?_
      -- The item is entered in time, so the first command of the body starts in time too.
      refine .bindOk (.bindOk (.lift (.untilFailure starts (opened.append last)
        (fun late => absurd late inTime) fun _ found => found)) fun _ _ _ => .ok _) fun _ _ _ => ?_
      exact ih _ _ _ _ ((opened.append last).append _)

theorem forEachItem (starts : List.Forall₂ (Starts host) list told) {skipProcessed : Bool}
    (opened : Opened past (.forEachItem list skipProcessed)) :
    Timely host (Telling.forEachItem host skipProcessed told) session past := by
  refine .sayThen fun items news => ?_
  cases items with
  | nil => exact .pure _
  | cons item rest =>
      exact .bindOk (forItems starts _ _ _ _ _ (opened.append news)) fun report _ _ =>
        .sayThen fun _ _ => .ok report

theorem choose {listElse : List Command} {toldElse : List (Telling σ Outcome)}
    (starts : List.Forall₂ (Starts host) list told)
    (startsElse : List.Forall₂ (Starts host) listElse toldElse) {condition : Condition}
    (opened : Opened past (.choose condition list listElse)) :
    Timely host (Telling.choose host condition told toldElse) session past := by
  refine .sayThen fun taken news => ?_
  have opened := opened.append news
  have branch (session : Session σ) :
      Timely host (Telling.untilFailure (if taken then told else toldElse)) session
        (past ++ news) := by
    cases taken with
    | true =>
        refine .untilFailure starts opened (fun _ command found => ?_) fun command found => ?_
        · exact List.mem_append_left _ (List.mem_of_mem_head? found)
        · exact List.mem_append_left _ (List.mem_of_mem_tail found)
    | false =>
        refine .untilFailure startsElse opened (fun _ command found => ?_) fun command found => ?_
        · exact List.mem_append_right _ (List.mem_of_mem_head? found)
        · exact List.mem_append_right _ (List.mem_of_mem_tail found)
  refine .bindOk (.lift (branch _)) fun failure _ _ => ?_
  cases failure with
  | some failure => exact .ok failure
  | none => exact .ok _

theorem pass (starts : List.Forall₂ (Starts host) list told) (session : Session σ)
    (past : List (Moment σ)) : Timely host (Telling.pass host told) session past :=
  .sayThen fun _ _ => .sayThen fun _ _ => .bindOk (.lift (regardless starts _ _)) fun _ _ _ =>
    .sayThen fun _ _ => .say _

theorem passes (starts : List.Forall₂ (Starts host) list told) (goal : Until)
    (scrollsBefore rounds left : Nat) (session : Session σ) (past : List (Moment σ)) :
    Timely host (Telling.passes host goal told scrollsBefore rounds left) session past := by
  induction left generalizing rounds session past with
  | zero => exact .ok _
  | succ left ih =>
      refine .checkedOk (fun _ _ => .ok _) fun _ _ _ => .bindOk (pass starts _ _) fun _ _ _ => ?_
      refine .sayThen fun _ _ => .ite (fun _ => .ok _) fun _ => ?_
      exact .sayThen fun _ _ => .ite (fun _ => .ok _) fun _ => ih _ _ _

theorem repeatUntil (starts : List.Forall₂ (Starts host) list told) (goal : Until)
    (session : Session σ) (past : List (Moment σ)) :
    Timely host (Telling.repeatUntil host goal told) session past :=
  .sayThen fun _ _ => passes starts goal _ _ _ _ _

end Timely

/-!
## Commands
-/

namespace Starts

variable {host : Host σ}

theorem attempt {command : Command} {body : ExceptT Fault (Telling σ) Outcome}
    (timely : ∀ session past, Opened past command → Timely host body session past) :
    Starts host command (Telling.attempt command body) := by
  refine Timely.starting fun session past opened => .tellThen ?_
  refine .andThen (timely _ _ (opened.append _)) fun result _ _ => ?_
  cases result with
  | ok outcome => exact .pure _
  | error fault => exact .pure _

theorem plain {command : Command} (isPlain : command.isPlain = true) :
    Starts host command (Telling.command host command) := by
  have noted : Telling.command host command =
      Telling.starting command (Telling.tell (command.run host)) := by
    cases command <;> first | rfl | cases isPlain
  rw [noted]
  exact Timely.starting fun _ _ _ => .tell _

mutual

theorem command (command : Command) : Starts host command (Telling.command host command) := by
  cases command with
  | forEachItem body skipProcessed =>
      exact attempt fun _ _ opened =>
        .bindOk (.forEachItem (commands body) opened) fun _ _ _ => .ok _
  | choose condition thenBranch elseBranch =>
      exact attempt fun _ _ opened => .choose (commands thenBranch) (commands elseBranch) opened
  | repeatUntil body goal =>
      exact attempt fun _ _ _ => .bindOk (.repeatUntil (commands body) _ _ _) fun _ _ _ => .ok _
  | _ => exact plain (by rfl)

theorem commands (list : List Command) :
    List.Forall₂ (Starts host) list (Telling.commands host list) := by
  cases list with
  | nil => exact .nil
  | cons first rest => exact .cons (command first) (commands rest)

end

end Starts

/-!
## Repair and the whole recipe
-/

namespace Timely

variable {host : Host σ} {session : Session σ} {past : List (Moment σ)}

theorem repairAndRetry {failed : Command} (opened : Opened past failed) (failure : Outcome) :
    Timely host (Telling.repairAndRetry host failed failure) session past := by
  refine .tellThen (.ite (fun _ => .pure _) fun _ => .tellThen ?_)
  generalize (Session.proposal host failed failure session).2 = asked
  generalize attempted : Session.patch host.clock _ _ = answer
  cases answer with
  | error fault => exact .pure _
  | ok patched =>
      refine .tellThen (.andThen (.ofStarts (.command failed) fun _ => ?_) fun outcome _ _ => ?_)
      · refine .retried (past ++ [{ session := asked }]) asked patched _ (opened.append _) ?_
          attempted rfl
        rw [List.append_assoc (past ++ _)]
        rfl
      · cases outcome with
        | ok report => exact .pure _
        | failed error repairable => exact .pure _

theorem runTop (top : Command) (inTime : ¬session.Late) :
    Timely host (Telling.runTop host top) session past := by
  obtain ⟨value, after, rest, same, punctual⟩ :=
    Starts.command top session past fun late => absurd late inTime
  refine .bind ⟨value, after, _, same, punctual⟩ fun outcome next news told => ?_
  obtain ⟨-, noted⟩ := Prod.mk.inj (Prod.mk.inj (same.symm.trans told)).2
  cases outcome with
  | ok report => exact .pure _
  | failed error repairable =>
      rw [← List.append_cancel_left noted]
      exact repairAndRetry ⟨_, List.mem_append_right past List.mem_cons_self, rfl⟩ _

theorem runAll (list : List Command) (session : Session σ) (past : List (Moment σ)) :
    Timely host (Telling.runAll host list) session past := by
  induction list generalizing session past with
  | nil => exact .pure none
  | cons first rest ih =>
      refine .checked (fun _ _ => .pure none) fun _ _ inTime => ?_
      refine .andThen (runTop first inTime) fun outcome _ _ => ?_
      cases outcome with
      | ok report => exact ih _ _
      | failed error repairable => exact .pure _

theorem execute (recipe : Recipe) (session : Session σ) :
    Timely host (Telling.execute host recipe) session [] := by
  refine .tellThen ?_
  cases (Session.begin host recipe.limits session).1 with
  | error fault => exact .pure _
  | ok _ =>
      exact .andThen (runAll _ _ _) fun error _ _ => .andThen (.tell _) fun _ _ _ => .pure _

end Timely

/-!
## Runs with a deadline
-/

namespace Move

variable {host : Host σ} {session next : Session σ}

theorem deadline (move : Move host session next) : next.deadline = session.deadline := by
  cases move with
  | timeChecked =>
      rcases session.checkTime_cases with ⟨-, same⟩ | ⟨-, same⟩ <;> rw [same]
  | repaired changes going accepted =>
      obtain ⟨bindings, rfl⟩ := Session.patch_bindings accepted
      rfl
  | _ => rfl

theorem timedOut (move : Move host session next) (late : session.timedOut = true) :
    next.timedOut = true := by
  cases move with
  | timeChecked =>
      rcases session.checkTime_cases with ⟨-, same⟩ | ⟨-, same⟩ <;> rw [same]
      exact late
  | repaired changes going accepted =>
      obtain ⟨bindings, rfl⟩ := Session.patch_bindings accepted
      exact late
  | _ => exact late

end Move

namespace Journey

variable {host : Host σ} {session final : Session σ} {news : List (Moment σ)}

theorem deadline {reached : Deadline σ} (journey : Journey host session news final)
    (limit : session.deadline = some reached) :
    ∀ moment ∈ news, moment.session.deadline = some reached := by
  refine (journey.preserves (fun session => session.deadline = some reached)
    (fun here move => move.deadline.trans here) (fun command plain here => ?_)
    (fun here => here) limit).1
  obtain ⟨run, world, same, _⟩ := command.run_deed host plain _
  rw [same]
  exact here

/-- A run that its deadline has stopped is one to the end. -/
theorem timedOut (journey : Journey host session news final) :
    (session.timedOut = true ∨ ∃ moment ∈ news, moment.session.timedOut = true) →
      final.timedOut = true := by
  induction journey with
  | done => simp
  | moved move _ ih =>
      intro late
      apply ih
      simp only [List.mem_cons, exists_eq_or_imp] at late
      rcases late with here | next | later
      · exact .inl (move.timedOut here)
      · exact .inl next
      · exact .inr later
  | @ran session _ _ command plain _ _ ih =>
      intro late
      apply ih
      obtain ⟨run, world, same, _⟩ := command.run_deed host plain session
      simp only [List.mem_cons, exists_eq_or_imp, same] at late ⊢
      simpa only [or_self_left] using late
  | opened command _ _ _ ih =>
      intro late
      apply ih
      simpa only [List.mem_cons, exists_eq_or_imp, or_self_left] using late

end Journey

namespace Session

variable (host : Host σ) {recipe : Recipe} {session : Session σ} {timeoutMs : Nat}
  {reached : Deadline σ}

theorem begin_timed (limited : recipe.limits.timeoutMs = some timeoutMs)
    (limit : host.clock.deadline timeoutMs session.world = .ok reached) :
    begin host recipe.limits session =
      (.ok (), { session with
        run := { startedAt := host.clock.time session.world }
        maxItems := recipe.limits.maxItems
        timedOut := false
        deadline := some reached }) := by
  unfold begin
  rw [limited]
  simp only [bind_apply, modify_apply, get_apply, limit]
  rfl

/-- A run that has begun ends with the error of its commands, or else with that of its time. -/
theorem execute_begun (begun : (begin host recipe.limits session).1 = .ok ()) :
    ∃ report, (execute host recipe session).1 = .ok report ∧
      report.error = (runAll host recipe.commands (begin host recipe.limits session).2).1.or
        (if (execute host recipe session).2.timedOut then some (timeoutMessage recipe.limits)
          else none) := by
  unfold execute
  simp only [bind_apply, begun]
  exact ⟨_, rfl, rfl⟩

/-- A command starts when the time is up only where nothing looks at the clock before it: as a
later command of the body of an iteration, in a branch, or once more after a repair. A run that
its deadline stopped fails, with the error of a command or with that of its time. -/
theorem execute_keeps_time (limited : recipe.limits.timeoutMs = some timeoutMs)
    (limit : host.clock.deadline timeoutMs session.world = .ok reached) :
    ∃ report final moments,
      Telling.execute host recipe (session, []) = (.ok report, final, moments) ∧
      execute host recipe session = (.ok report, final) ∧
      (∀ before moment after command, moments = before ++ moment :: after →
        moment.starting = some command → reached moment.session.world = true →
        Excused host before moment.session command) ∧
      ((∃ moment ∈ moments, moment.session.timedOut = true) →
        report.success = false ∧
        ((runAll host recipe.commands (begin host recipe.limits session).2).1 = none →
          report.error = some (timeoutMessage recipe.limits))) := by
  have begun := begin_timed host limited limit
  obtain ⟨news, told, journey⟩ := @Tells.execute _ host recipe session
  obtain ⟨report, ran, error⟩ := execute_begun host (congrArg Prod.fst begun)
  obtain ⟨_, _, listed, same, punctual⟩ := @Timely.execute _ host recipe session
  obtain rfl : _ = listed := (congrArg (·.2.2) (told.symm.trans same))
  have deadlines : ∀ moment ∈
      ({ session := (begin host recipe.limits session).2 } :: news : List (Moment σ)),
      moment.session.deadline = some reached :=
    List.forall_mem_cons.mpr
      ⟨by rw [begun], journey.deadline (by rw [begun])⟩
  refine ⟨report, _, _, told.trans (by rw [ran]), Prod.ext ran rfl, ?_, ?_⟩
  · intro before moment after command split starts late
    rw [split] at punctual deadlines
    have timed := deadlines moment (List.mem_append_right _ List.mem_cons_self)
    have excused := punctual.excused starts (by rw [Late, timed]; exact late)
    rwa [List.nil_append] at excused
  · rintro ⟨moment, found, late⟩
    have final : (execute host recipe session).2.timedOut = true := by
      refine journey.timedOut ?_
      rcases List.mem_cons.mp found with rfl | later
      · exact .inl late
      · exact .inr ⟨moment, later, late⟩
    rw [final, if_pos rfl] at error
    refine ⟨?_, fun clean => by rw [error, clean]; rfl⟩
    rw [RunResult.success, error]
    cases (runAll host recipe.commands (begin host recipe.limits session).2).1 <;> rfl

end Session

/-!
## A run that starts a command late
-/

namespace Rehearsal

/-- The clock of a rehearsal, with deadlines in whole microseconds. -/
def wholeClock : Clock World :=
  { clock with
    deadline := fun timeoutMs world => .ok fun later => world.us + timeoutMs * 1000 ≤ later.us }

/-- A page with one item on which it takes two seconds to look for a selector. -/
def slowStart : Session World :=
  Session.start wholeClock
    { updatedAt := 0, list := "#list", listItem := ".job-card", itemId := some { source := .data } }
    { stage :=
        { items := [{ id := some "a", text := "a" }]
          visible := 1
          selectors := [("#list", 1)] }
      latency := [("selector_exists", 2000)] }

/-- One second for a body that looks for the list and then marks its item. -/
def slowRecipe : Recipe where
  id := "slow"
  commands := [.forEachItem [.goTo "list", .markDone] true, .refresh]
  limits := { timeoutMs := some 1000 }

def slowHost : Host World :=
  { page, clock := wholeClock }

theorem execute_keeps_time_on_slowRecipe :
    ∃ report, (Session.execute slowHost slowRecipe slowStart).1 = .ok report ∧
      report.success = false ∧ report.error = some "Recipe timed out after 1000ms" := by
  obtain ⟨report, final, moments, told, ran, -, timedOut⟩ :=
    @Session.execute_keeps_time _ slowHost slowRecipe slowStart _ _ rfl rfl
  have stopped : (Telling.execute slowHost slowRecipe (slowStart, [])).2.2.any
      (fun moment => moment.session.timedOut) = true := by decide +kernel
  rw [told] at stopped
  obtain ⟨failed, error⟩ := timedOut (by simpa using stopped)
  exact ⟨report, by rw [ran], failed, error (by decide +kernel)⟩

/-- The item is marked two seconds after the beginning of a run that may take one. -/
theorem slowRecipe_marks_late :
    ∃ moment ∈ (Telling.execute slowHost slowRecipe (slowStart, [])).2.2,
      moment.starting.map Command.tag = some "MARK_DONE" ∧
      moment.session.deadline.any (· moment.session.world) = true := by
  have late : (Telling.execute slowHost slowRecipe (slowStart, [])).2.2.any (fun moment =>
      moment.starting.map Command.tag = some "MARK_DONE" &&
        moment.session.deadline.any (· moment.session.world)) = true := by decide +kernel
  simpa using late

end Rehearsal

end Gleaner
