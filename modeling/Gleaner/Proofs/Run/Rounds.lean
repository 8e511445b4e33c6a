import Gleaner.Proofs.Run.Goals
import Gleaner.Proofs.Run.Growth
import Gleaner.Proofs.Run.Scrolls
import Mathlib.Algebra.Order.Floor.Div
import Mathlib.Order.Bounds.Basic

/-!
# When a repetition ends

A repetition makes one pass after another until its goal is reached, or until the page says that
there are no more items, and it makes no more passes than are allowed. The passes are told here
without that end: a lap is where the repetition stands, and each round is a pass with all of its
body and the questions to the page after it. The repetition ends with the least round that the
goal or the page makes the last one.
-/

set_option autoImplicit false

namespace Gleaner

variable {σ α : Type}

/-!
## A body that is run in full
-/

/-- Runs commands one after the other, whatever comes of them, and whether or not the run is
over. -/
def Telling.each : List (Telling σ Outcome) → Telling σ Unit
  | [] => return ()
  | step :: rest => do
      discard step
      Telling.each rest

/-- The session after commands were run one after the other, whatever came of them. -/
def Session.afterEach (host : Host σ) (commands : List Command) (session : Session σ) :
    Session σ :=
  commands.foldl (fun session command => (command.run host session).2) session

/-- A check of the time that does not stop the run changes nothing. -/
theorem Session.checkTime_going {session : Session σ}
    (going : session.checkTime.run.stopped = false) : session.checkTime = session := by
  rcases session.checkTime_cases with ⟨-, same⟩ | ⟨-, same⟩
  · exact same
  · rw [same] at going
    cases going

/-- What is stopped stays stopped. -/
theorem Command.steps_stopped (host : Host σ) (commands : List Command) :
    ∀ step ∈ Command.steps host commands,
      Keeps (fun session : Session σ => session.run.stopped = true) step :=
  Keeps.steps fun command _ session stopped =>
    (command.grows_after_count host session).stopped stopped

/-- The next step of a body after which the run is not over: it was not over before. -/
theorem regardless_unstopped {step : Step σ} {rest : List (Step σ)} {session : Session σ}
    (going : (regardless (step :: rest) session).2.run.stopped = false) :
    session.run.stopped = false ∧
      regardless (step :: rest) session = regardless rest (step session).2 := by
  rw [regardless_cons] at going ⊢
  cases stopped : session.checkTime.run.stopped with
  | true =>
      rw [if_pos stopped, stopped] at going
      cases going
  | false =>
      have same := Session.checkTime_going stopped
      rw [same] at stopped ⊢
      exact ⟨stopped, rfl⟩

/-- A body after which the run is not over was run in full. -/
theorem regardless_each (host : Host σ) (body : List Command) {session : Session σ}
    (going : (regardless (Command.steps host body) session).2.run.stopped = false) :
    regardless (Command.steps host body) session = ((), session.afterEach host body) := by
  induction body generalizing session with
  | nil => rfl
  | cons command rest ih =>
      obtain ⟨-, same⟩ := regardless_unstopped going
      rw [Command.steps] at going ⊢
      rw [same] at going ⊢
      exact ih going

/-- The chronicle of such a body is a journey. -/
theorem Telling.each_journey (host : Host σ) (body : List Command) {session : Session σ}
    (going : (Gleaner.regardless (Command.steps host body) session).2.run.stopped = false)
    (past : List (Moment σ)) :
    ∃ news, (each (commands host body) (session, past)).2 =
        (session.afterEach host body, past ++ news) ∧
      Journey host session news (session.afterEach host body) := by
  induction body generalizing session past with
  | nil => exact ⟨[], by rw [List.append_nil]; rfl, .done⟩
  | cons first rest ih =>
      obtain ⟨unstopped, following⟩ := regardless_unstopped going
      rw [Command.steps, following] at going
      obtain ⟨news, same, journey⟩ := Tells.command first session unstopped past
      obtain ⟨more, sameRest, further⟩ := ih going (past ++ news)
      refine ⟨news ++ more, ?_, journey.trans further⟩
      show (each (commands host rest) (command host first (session, past)).2).2 = _
      rw [same, ← List.append_assoc]
      exact sameRest

/-- What the rest of a program keeps holds after the program if it holds after its beginning. -/
theorem Keeps.afterOk {β : Type} {I : Session σ → Prop} {first : Interp σ α} {next : α → Interp σ β}
    {session : Session σ} (nextKeeps : ∀ value, Keeps I (next value))
    (holds : I (first session).2) :
    I ((first >>= next : Interp σ β) session).2 := by
  rw [Interp.bind_apply]
  rcases ran : first session with ⟨fault | value, after⟩
  · rw [ran] at holds
    exact holds
  · rw [ran] at holds
    exact nextKeeps value after holds

/-- Passes after which the run is not over: it was over neither before the first one nor right
after it. -/
theorem Interp.passes_unstopped {host : Host σ} {goal : Until} {body : List (Step σ)}
    {scrollsBefore rounds left : Nat} {session : Session σ}
    (bodyStops : ∀ step ∈ body, Keeps (fun session : Session σ => session.run.stopped = true) step)
    (going : (passes host goal body scrollsBefore rounds (left + 1) session).2.run.stopped =
      false) :
    session.checkTime = session ∧ session.run.stopped = false ∧
      (pass host body session).2.run.stopped = false := by
  have stops : Enduring fun session : Session σ => session.run.stopped = true :=
    fun before after same _ stopped => same.stopped stopped
  rw [passes, bind_apply, overdue_apply] at going
  cases stopped : session.checkTime.run.stopped with
  | true =>
      simp only [stopped] at going
      cases stopped.symm.trans going
  | false =>
      have same := Session.checkTime_going stopped
      rw [same] at stopped going
      refine ⟨same, stopped, ?_⟩
      rw [stopped] at going
      dsimp only at going
      rw [if_neg Bool.false_ne_true] at going
      by_contra halted
      rw [Bool.not_eq_false] at halted
      apply Bool.eq_false_iff.mp going
      refine @Keeps.afterOk _ _ _ (fun session => session.run.stopped = true) _ _ _ (fun _ => ?_)
        halted
      refine .bindOk (.looks stops.steady (reached_looks host _ _)) fun _ => .ite (.ok _) ?_
      exact .bindOk (.looks stops.steady (noMoreItems_looks host)) fun _ =>
        .ite (.ok _) (.passes stops bodyStops _ _ _)

/-!
## Laps
-/

namespace Session

variable (host : Host σ) (session : Session σ)

/-- The number of items that the page tells; none if it cannot tell. -/
def itemCount : Int :=
  (Interp.countItems host session).1.toOption.getD 0

/-- The session after the items were counted. -/
def afterCount : Session σ :=
  (Interp.countItems host session).2

@[simp] theorem afterCount_run : (session.afterCount host).run = session.run := by
  obtain ⟨world, looked⟩ := Interp.countItems_looks host session
  rw [afterCount, looked]

theorem countItems_told {host : Host σ} {session : Session σ}
    (told : (Interp.countItems host session).1.isOk = true) :
    Interp.countItems host session = (.ok (session.itemCount host), session.afterCount host) := by
  obtain ⟨count, told⟩ := Except.exists_of_isOk told
  refine Prod.ext ?_ rfl
  rw [itemCount, told]
  rfl

end Session

/-- Where a repetition stands between two passes: its session, and the scrolls that were tried
since it began. -/
structure Lap (σ : Type) where
  session : Session σ
  scrolls : Nat

namespace Lap

variable (host : Host σ) (body : List Command) (goal : Until) (lap : Lap σ)

/-- The session after the items were counted and every command of the body was run. -/
def ran : Session σ :=
  (lap.session.afterCount host).afterEach host body

/-- The scrolls that the commands of the body try, with those inside of them. -/
def tried : Nat :=
  let told := Telling.each (Telling.commands host body) (lap.session.afterCount host, [])
  (told.2.2.map (Moment.scrollsTried host)).sum

/-- Whether a pass brings something new: the list is longer after it, or more is saved. -/
def fresh : Bool :=
  lap.session.itemCount host < (lap.ran host body).itemCount host ||
    lap.session.run.collected.length < (lap.ran host body).run.collected.length

/-- One pass, with the count of the items after it. -/
def pass : Lap σ where
  session := ((lap.ran host body).afterCount host).afterPass (lap.fresh host body)
  scrolls := lap.scrolls + lap.tried host body

/-- The verdict on the goal after a pass, with the answers of the page that were used for it. -/
def verdict : Bool × Nat :=
  goal.judge (lap.session.evidence host lap.scrolls) 0

/-- Whether a pass is the last one: the goal is reached, or else the page says, when asked once
more, that there are no more items. -/
def ends : Bool :=
  (lap.verdict host goal).1 || lap.session.answer host (lap.verdict host goal).2

/-- How many times the page is asked after a pass. -/
def questions : Nat :=
  if (lap.verdict host goal).1 then (lap.verdict host goal).2 else (lap.verdict host goal).2 + 1

/-- A pass and the questions after it. -/
def round : Lap σ :=
  let passed := lap.pass host body
  { passed with session := passed.session.asked host (passed.questions host goal) }

/-- Where the repetition stands after so many rounds. -/
def begun (rounds : Nat) : Lap σ :=
  (fun lap => lap.round host body goal)^[rounds] lap

/-- Where the repetition stands right after its `n`-th pass. -/
def passed : Nat → Lap σ
  | 0 => lap
  | n + 1 => (lap.begun host body goal n).pass host body

/-- None of the first passes is the last one. -/
def GoesOn (rounds : Nat) : Prop :=
  ∀ n, 1 ≤ n → n ≤ rounds → (lap.passed host body goal n).ends host goal = false

/-- What a round reads of the page can be read: the number of items before and after the body,
and the answers to the questions. -/
structure Reads : Prop where
  before : (Interp.countItems host lap.session).1.isOk = true
  after : (Interp.countItems host (lap.ran host body)).1.isOk = true
  told : ∀ n < (lap.pass host body).questions host goal,
    (Interp.noMoreItems host ((lap.pass host body).session.asked host n)).1.isOk = true

instance : Decidable (lap.Reads host body goal) :=
  decidable_of_iff
    ((Interp.countItems host lap.session).1.isOk = true ∧
      (Interp.countItems host (lap.ran host body)).1.isOk = true ∧
      ∀ n < (lap.pass host body).questions host goal,
        (Interp.noMoreItems host ((lap.pass host body).session.asked host n)).1.isOk = true)
    ⟨fun ⟨before, after, told⟩ => ⟨before, after, told⟩,
      fun ⟨before, after, told⟩ => ⟨before, after, told⟩⟩

end Lap

/-!
## The passes of a repetition
-/

namespace Lap

variable {host : Host σ} {body : List Command} {goal : Until} {lap : Lap σ}

/-- What a pass brings, where the items can be counted before and after it and the run is not
over. -/
theorem news_apply
    (before : (Interp.countItems host lap.session).1.isOk = true)
    (after : (Interp.countItems host (lap.ran host body)).1.isOk = true)
    (going : (Interp.news host (Command.steps host body) lap.session).2.run.stopped = false) :
    (regardless (Command.steps host body) (lap.session.afterCount host)).2.run.stopped = false ∧
      Interp.news host (Command.steps host body) lap.session =
        (.ok (lap.fresh host body), (lap.ran host body).afterCount host) := by
  simp only [Interp.news, Interp.bind_apply, Interp.run_apply, Interp.liftState_apply,
    Session.countItems_told before, Session.afterCount_run] at going ⊢
  have unstopped : (regardless (Command.steps host body)
      (lap.session.afterCount host)).2.run.stopped = false := by
    rw [← Session.afterCount_run host, Session.afterCount]
    rcases recounted : Interp.countItems host (regardless (Command.steps host body)
      (lap.session.afterCount host)).2 with ⟨fault | count, final⟩
    all_goals
      rw [recounted] at going
      exact going
  refine ⟨unstopped, ?_⟩
  rw [regardless_each host body unstopped, ← ran, Session.countItems_told after]
  simp only [fresh, Session.afterCount_run]
  rfl

/-- A pass, where the items can be counted before and after it and the run is not over. -/
theorem pass_apply
    (before : (Interp.countItems host lap.session).1.isOk = true)
    (after : (Interp.countItems host (lap.ran host body)).1.isOk = true)
    (going : (Interp.pass host (Command.steps host body) lap.session).2.run.stopped = false) :
    (regardless (Command.steps host body) (lap.session.afterCount host)).2.run.stopped = false ∧
      Interp.pass host (Command.steps host body) lap.session =
        (.ok (), (lap.pass host body).session) := by
  rw [Interp.pass_apply] at going ⊢
  have unstopped :
      (Interp.news host (Command.steps host body) lap.session).2.run.stopped = false := by
    rcases ran : Interp.news host (Command.steps host body) lap.session with ⟨fault | fresh, final⟩
    all_goals
      rw [ran] at going
      exact going
  obtain ⟨bodyGoing, ran⟩ := news_apply before after unstopped
  rw [ran]
  exact ⟨bodyGoing, rfl⟩

/-- The scrolls counted in the run are those tried since the repetition began, on top of those
before it. -/
theorem pass_scrolls {before : Nat}
    (going : (regardless (Command.steps host body)
      (lap.session.afterCount host)).2.run.stopped = false)
    (scrolled : lap.session.run.stats.scrollsPerformed = before + lap.scrolls) :
    (lap.pass host body).session.run.stats.scrollsPerformed =
      before + (lap.pass host body).scrolls := by
  obtain ⟨news, told, journey⟩ := Telling.each_journey host body going []
  have counted := journey.scrolls
  have noted : (lap.pass host body).session.run.stats.scrollsPerformed =
      (lap.ran host body).run.stats.scrollsPerformed :=
    congrArg (·.stats.scrollsPerformed) ((lap.ran host body).afterCount_run host)
  have tried : lap.tried host body = (news.map (Moment.scrollsTried host)).sum := by
    rw [Lap.tried, told]
    rfl
  rw [Session.afterCount_run, scrolled, ← tried, Nat.add_assoc] at counted
  exact noted.trans counted

/-- The last of the rounds that are made, by the goal and the page. -/
def LastAt (host : Host σ) (body : List Command) (goal : Until) (lap : Lap σ) (rounds : Nat) :
    Prop :=
  IsLeast {n | 1 ≤ n ∧ (lap.passed host body goal n).ends host goal = true} rounds

theorem verdict_le_questions (lap : Lap σ) :
    (lap.verdict host goal).2 ≤ lap.questions host goal := by
  unfold questions
  split
  · exact Nat.le_refl _
  · exact Nat.le_succ _

@[simp] theorem begun_one : lap.begun host body goal 1 = lap.round host body goal := rfl

theorem goesOn_zero : lap.GoesOn host body goal 0 := by
  intro n first upTo
  exact absurd (first.trans upTo) (Nat.not_succ_le_zero 0)

theorem goesOn_succ {n : Nat} :
    lap.GoesOn host body goal (n + 1) ↔
      (lap.pass host body).ends host goal = false ∧
        (lap.round host body goal).GoesOn host body goal n := by
  constructor
  · intro goesOn
    refine ⟨goesOn 1 (Nat.le_refl 1) (Nat.succ_le_succ (Nat.zero_le n)), ?_⟩
    intro m first upTo
    obtain ⟨m, rfl⟩ := Nat.exists_eq_add_of_le' first
    exact goesOn (m + 2) (Nat.succ_le_succ (Nat.zero_le _)) (Nat.succ_le_succ upTo)
  · rintro ⟨unended, further⟩ m first upTo
    match m with
    | 0 => cases first
    | 1 => exact unended
    | m + 2 =>
        exact further (m + 1) (Nat.succ_le_succ (Nat.zero_le m)) (Nat.le_of_succ_le_succ upTo)

theorem lastAt_one (ended : (lap.pass host body).ends host goal = true) :
    lap.LastAt host body goal 1 :=
  ⟨⟨Nat.le_refl 1, ended⟩, fun _ last => last.1⟩

theorem lastAt_succ {n : Nat} (unended : (lap.pass host body).ends host goal = false)
    (last : (lap.round host body goal).LastAt host body goal n) :
    lap.LastAt host body goal (n + 1) := by
  obtain ⟨⟨first, ended⟩, least⟩ := last
  obtain ⟨n, rfl⟩ := Nat.exists_eq_add_of_le' first
  refine ⟨⟨Nat.succ_le_succ (Nat.zero_le _), ended⟩, ?_⟩
  intro m found
  obtain ⟨firstOf, endedAt⟩ := found
  match m with
  | 0 => cases firstOf
  | 1 => exact absurd (endedAt.symm.trans unended) Bool.true_eq_false.mp
  | m + 2 => exact Nat.succ_le_succ (least ⟨Nat.succ_le_succ (Nat.zero_le m), endedAt⟩)

/-- One round of a repetition that is not stopped: it is the last one, or others follow it. -/
theorem passes_round {before rounds left : Nat}
    (scrolled : lap.session.run.stats.scrollsPerformed = before + lap.scrolls)
    (now : lap.Reads host body goal)
    (going : (Interp.passes host goal (Command.steps host body) before rounds (left + 1)
      lap.session).2.run.stopped = false) :
    (lap.round host body goal).session.run.stats.scrollsPerformed =
        before + (lap.round host body goal).scrolls ∧
      Interp.passes host goal (Command.steps host body) before rounds (left + 1) lap.session =
        if (lap.pass host body).ends host goal then
          (.ok (.repeated (rounds + 1) false), (lap.round host body goal).session)
        else
          Interp.passes host goal (Command.steps host body) before (rounds + 1) left
            (lap.round host body goal).session := by
  obtain ⟨same, unstopped, passGoing⟩ :=
    Interp.passes_unstopped (Command.steps_stopped host body) going
  obtain ⟨bodyGoing, passed⟩ := pass_apply now.before now.after passGoing
  have scrolledOn := pass_scrolls bodyGoing scrolled
  refine ⟨by rw [round, Session.asked_run]; exact scrolledOn, ?_⟩
  have judged : Interp.reached host before goal (lap.pass host body).session =
      (.ok ((lap.pass host body).verdict host goal).1,
        (lap.pass host body).session.asked host ((lap.pass host body).verdict host goal).2) :=
    Interp.reached_judge scrolledOn goal 0 fun n _ upTo =>
      now.told n (upTo.trans_le (verdict_le_questions _))
  rw [Interp.passes_succ, same, unstopped, if_neg Bool.false_ne_true, passed]
  dsimp only
  rw [judged, ends, round, questions]
  cases held : ((lap.pass host body).verdict host goal).1 with
  | true => rfl
  | false =>
      have asks : ((lap.pass host body).verdict host goal).2 <
          (lap.pass host body).questions host goal := by
        rw [questions, held]
        exact Nat.lt_succ_self _
      dsimp only
      rw [Session.noMoreItems_asked (now.told _ asks)]
      cases answered : (lap.pass host body).session.answer host
          ((lap.pass host body).verdict host goal).2 with
      | true => rfl
      | false => rfl

/-- Rounds are made up to the last one, or as many as are allowed. -/
theorem passes_rounds {before rounds left : Nat}
    (scrolled : lap.session.run.stats.scrollsPerformed = before + lap.scrolls)
    (reads : ∀ n < left, lap.GoesOn host body goal n →
      (lap.begun host body goal n).Reads host body goal)
    (going : (Interp.passes host goal (Command.steps host body) before rounds left
      lap.session).2.run.stopped = false) :
    ∃ more capped, Interp.passes host goal (Command.steps host body) before rounds left
        lap.session =
          (.ok (.repeated (rounds + more) capped), (lap.begun host body goal more).session) ∧
      if capped then more = left ∧ lap.GoesOn host body goal left
      else more ≤ left ∧ lap.LastAt host body goal more := by
  induction left generalizing lap rounds with
  | zero => exact ⟨0, true, rfl, rfl, goesOn_zero⟩
  | succ left ih =>
      obtain ⟨scrolledOn, made⟩ := passes_round scrolled (reads 0 (Nat.succ_pos left) goesOn_zero)
        going
      rw [made] at going ⊢
      cases ended : (lap.pass host body).ends host goal with
      | true =>
          rw [if_pos rfl]
          exact ⟨1, false, rfl, Nat.succ_le_succ (Nat.zero_le left), lastAt_one ended⟩
      | false =>
          rw [ended, if_neg Bool.false_ne_true] at going
          rw [if_neg Bool.false_ne_true]
          have further n (below : n < left) (goesOn : (lap.round host body goal).GoesOn host body
              goal n) : ((lap.round host body goal).begun host body goal n).Reads host body goal :=
            reads (n + 1) (Nat.succ_lt_succ below) (goesOn_succ.mpr ⟨ended, goesOn⟩)
          obtain ⟨more, capped, ran, last⟩ := ih scrolledOn further going
          refine ⟨more + 1, capped, ?_, ?_⟩
          · rw [Nat.add_assoc, Nat.add_comm 1] at ran
            exact ran
          · cases capped with
            | true => exact ⟨congrArg (· + 1) last.1, goesOn_succ.mpr ⟨ended, last.2⟩⟩
            | false => exact ⟨Nat.succ_le_succ last.1, lastAt_succ ended last.2⟩

/-- Where the page always gives the same answer, a pass is the last one by a formula. -/
theorem ends_of_steady {noMore : Bool} (same : ∀ n, lap.session.answer host n = noMore) :
    lap.ends host goal = (goal.met (lap.session.evidence host lap.scrolls) noMore || noMore) := by
  rw [ends, verdict, Until.judge_steady same, same]

theorem LastAt.goesOn {n rounds : Nat} (last : lap.LastAt host body goal rounds)
    (below : n < rounds) : lap.GoesOn host body goal n := by
  intro m first upTo
  by_contra ended
  rw [Bool.not_eq_false] at ended
  exact absurd (last.2 ⟨first, ended⟩) (Nat.not_le.mpr (upTo.trans_lt below))

/-!
### Bodies that only scroll
-/

section Scrolling

variable (onlyScrolls : ∀ command ∈ body, ∃ target direction, command = .scroll target direction)

include onlyScrolls

theorem tried_of_onlyScrolls (lap : Lap σ) : lap.tried host body = body.length := by
  have each (noted : Session σ × List (Moment σ)) :
      ((Telling.each (Telling.commands host body) noted).2.2.map (Moment.scrollsTried host)).sum =
        (noted.2.map (Moment.scrollsTried host)).sum + body.length := by
    induction body generalizing noted with
    | nil => rfl
    | cons command rest ih =>
        obtain ⟨⟨target, direction, rfl⟩, restScrolls⟩ := List.forall_mem_cons.mp onlyScrolls
        have first : ((Telling.command host (.scroll target direction) noted).2.2.map
            (Moment.scrollsTried host)).sum =
              (noted.2.map (Moment.scrollsTried host)).sum + 1 := by
          rw [Telling.command_plain rfl]
          show ((noted.2 ++ [_] ++ [_]).map (Moment.scrollsTried host)).sum = _
          rw [List.map_append, List.map_append, List.sum_append, List.sum_append]
          rfl
        refine (ih restScrolls (Telling.command host (.scroll target direction) noted).2).trans ?_
        rw [first, List.length_cons, Nat.add_assoc, Nat.add_comm 1]
  exact (each _).trans (Nat.zero_add _)

theorem passed_scrolls (n : Nat) :
    (lap.passed host body goal (n + 1)).scrolls = lap.scrolls + (n + 1) * body.length := by
  have begun (n : Nat) :
      (lap.begun host body goal n).scrolls = lap.scrolls + n * body.length := by
    induction n with
    | zero => rw [Nat.zero_mul]; rfl
    | succ n ih =>
        have next : lap.begun host body goal (n + 1) =
            (lap.begun host body goal n).round host body goal :=
          Function.iterate_succ_apply' _ _ _
        rw [next, round, pass, ih, tried_of_onlyScrolls onlyScrolls, Nat.succ_mul, Nat.add_assoc]
  rw [passed, pass, begun, tried_of_onlyScrolls onlyScrolls, Nat.succ_mul, Nat.add_assoc]

/-- Where the page does not say that there are no more items, a body of scrolls is run until it
has scrolled often enough. -/
theorem ends_of_onlyScrolls {count n : Nat} (fresh : lap.scrolls = 0)
    (unmatched : (lap.passed host body (.maxScrolls count) (n + 1)).session.answer host 0 = false) :
    (lap.passed host body (.maxScrolls count) (n + 1)).ends host (.maxScrolls count) =
      decide (count ≤ (n + 1) * body.length) := by
  rw [ends, verdict, Until.judge, unmatched, Bool.or_false, Session.evidence,
    passed_scrolls onlyScrolls, fresh, Nat.zero_add]

/-- As many rounds of scrolls are made as the goal asks for, but at least one. -/
theorem rounds_of_onlyScrolls {count rounds cap : Nat} {capped : Bool} (nonempty : body ≠ [])
    (fresh : lap.scrolls = 0)
    (unmatched : ∀ n < cap, lap.GoesOn host body (.maxScrolls count) n →
      (lap.passed host body (.maxScrolls count) (n + 1)).session.answer host 0 = false)
    (ended : if capped then rounds = cap ∧ lap.GoesOn host body (.maxScrolls count) cap
      else rounds ≤ cap ∧ lap.LastAt host body (.maxScrolls count) rounds) :
    Report.repeated rounds capped =
      if max 1 (count ⌈/⌉ body.length) ≤ cap then
        .repeated (max 1 (count ⌈/⌉ body.length)) false
      else .repeated cap true := by
  have positive : 0 < body.length := List.length_pos_iff.mpr nonempty
  have enough (n : Nat) : count ⌈/⌉ body.length ≤ n ↔ count ≤ n * body.length := by
    rw [ceilDiv_le_iff_le_mul positive, Nat.mul_comm]
  cases capped with
  | true =>
      obtain ⟨rfl, goesOn⟩ := ended
      rw [if_neg]
      intro within
      obtain ⟨cap, rfl⟩ := Nat.exists_eq_add_of_le' ((Nat.le_max_left 1 _).trans within)
      have unended := goesOn (cap + 1) (Nat.succ_le_succ (Nat.zero_le cap)) (Nat.le_refl _)
      rw [ends_of_onlyScrolls onlyScrolls fresh (unmatched cap (Nat.lt_succ_self cap)
        fun n first upTo => goesOn n first (Nat.le_succ_of_le upTo))] at unended
      exact of_decide_eq_false unended ((enough _).mp ((Nat.le_max_right 1 _).trans within))
  | false =>
      obtain ⟨within, last⟩ := ended
      obtain ⟨rounds, rfl⟩ := Nat.exists_eq_add_of_le' last.1.1
      have reached {n : Nat} (below : n ≤ rounds) :=
        ends_of_onlyScrolls onlyScrolls fresh (unmatched n (below.trans_lt within)
          (last.goesOn (Nat.lt_succ_of_le below)))
      have ended := last.1.2
      rw [reached (Nat.le_refl rounds)] at ended
      have most : max 1 (count ⌈/⌉ body.length) ≤ rounds + 1 :=
        max_le last.1.1 ((enough _).mpr (of_decide_eq_true ended))
      have least : rounds + 1 ≤ max 1 (count ⌈/⌉ body.length) := by
        refine last.2 ⟨Nat.le_max_left 1 _, ?_⟩
        obtain ⟨n, same⟩ := Nat.exists_eq_add_of_le' (Nat.le_max_left 1 (count ⌈/⌉ body.length))
        rw [same] at most ⊢
        rw [reached (Nat.le_of_succ_le_succ most)]
        exact decide_eq_true ((enough _).mp ((Nat.le_max_right 1 _).trans_eq same))
      rw [if_pos (most.trans within), Nat.le_antisymm most least]

end Scrolling

end Lap

/-- A repetition that is not stopped succeeds, and ends with the first pass after which its goal
is reached or the page says that there are no more items, whatever failed in the passes; where
there is none among those that are allowed, it makes these and says so. Scrolls before it do not
count for its goal, so that a body of scrolls is run as often as it takes to make as many as the
goal asks for. -/
theorem Command.repeatUntil_rounds (host : Host σ) (body : List Command) (goal : Until)
    (session : Session σ) :
    let lap : Lap σ := { session := session.counted, scrolls := 0 }
    let cap := host.settings.maxRepeatIterations
    (∀ n < cap, lap.GoesOn host body goal n →
      (lap.begun host body goal n).Reads host body goal) →
    ((Command.repeatUntil body goal).run host session).2.run.stopped = false →
    ∃ rounds capped,
      (Command.repeatUntil body goal).run host session =
        (.ok (.repeated rounds capped), (lap.begun host body goal rounds).session) ∧
      (if capped then rounds = cap ∧ lap.GoesOn host body goal cap
        else rounds ≤ cap ∧ lap.LastAt host body goal rounds) ∧
      ∀ count, goal = .maxScrolls count → body ≠ [] →
        (∀ command ∈ body, ∃ target direction, command = .scroll target direction) →
        (∀ n < cap, lap.GoesOn host body goal n →
          (lap.passed host body goal (n + 1)).session.answer host 0 = false) →
        Report.repeated rounds capped =
          if max 1 (count ⌈/⌉ body.length) ≤ cap then
            .repeated (max 1 (count ⌈/⌉ body.length)) false
          else .repeated cap true := by
  intro lap cap reads going
  rw [Command.run, report_apply] at going ⊢
  obtain ⟨rounds, capped, ran, ended⟩ := Lap.passes_rounds (Nat.add_zero _).symm reads going
  refine ⟨rounds, capped, ?_, ended, ?_⟩
  · rw [Nat.zero_add] at ran
    rw [show Interp.repeatUntil host goal (Command.steps host body) session.counted = _ from ran]
    rfl
  · rintro count rfl nonempty onlyScrolls unmatched
    exact Lap.rounds_of_onlyScrolls onlyScrolls nonempty rfl unmatched ended

namespace Rehearsal

/-- At most three passes, with no repair. -/
def threePassHost : Host World :=
  { page, clock, settings := { maxRepeatIterations := 3 } }

/-- A session that has scrolled once. -/
def scrolledStart : Session World :=
  (Command.run threePassHost (.scroll .page .down) singleStart).2

end Rehearsal

open Rehearsal in
/-- Three scrolls take two passes of two; the scroll before them does not count. -/
theorem Command.repeatUntil_rounds_on_scrolledStart :
    scrolledStart.run.stats.scrollsPerformed = 1 ∧
    ((Command.repeatUntil [.scroll .page .down, .scroll .page .up] (.maxScrolls 3)).run
      threePassHost scrolledStart).1 = .ok (.repeated 2 false) := by
  let body : List Command := [.scroll .page .down, .scroll .page .up]
  let lap : Lap World := { session := scrolledStart.counted, scrolls := 0 }
  have reads : ∀ n < 3, (lap.begun threePassHost body (.maxScrolls 3) n).Reads threePassHost body
      (.maxScrolls 3) := by
    decide +kernel
  have unmatched : ∀ n < 3, (lap.passed threePassHost body (.maxScrolls 3)
      (n + 1)).session.answer threePassHost 0 = false := by
    decide +kernel
  obtain ⟨rounds, capped, ran, -, scrolled⟩ := Command.repeatUntil_rounds threePassHost body
    (.maxScrolls 3) scrolledStart (fun n below _ => reads n below) (by decide +kernel)
  have counted : Report.repeated rounds capped = .repeated 2 false :=
    (scrolled 3 rfl (List.cons_ne_nil _ _) (by simp [body]) fun n below _ =>
      unmatched n below).trans (by decide)
  exact ⟨by decide +kernel, by rw [ran, counted]⟩

end Gleaner
