import Gleaner.Proofs.Run.Chapters
import Gleaner.Proofs.Run.Keeping
import Gleaner.Rehearsal.World

/-!
# The turns of an iteration

An iteration over the list gives each item listed its turn, one after the other: the item is
passed over when it was done before, or else the body is run for it. Whatever comes of the body,
the next item has its turn, until the run is over. During its body an item stays the current one,
unless the body goes to another item or iterates over the list itself.
-/

set_option autoImplicit false

namespace Gleaner

variable {σ α β : Type}

/-!
## Bodies that stay at their item
-/

mutual

/-- The command goes to an item or iterates over the list, or a command inside it does. -/
def Command.reseats : Command → Bool
  | .goToItem _ => true
  | .forEachItem _ _ => true
  | .choose _ thenBranch elseBranch =>
      Command.anyReseats thenBranch || Command.anyReseats elseBranch
  | .repeatUntil body _ => Command.anyReseats body
  | _ => false

def Command.anyReseats : List Command → Bool
  | [] => false
  | first :: rest => first.reseats || Command.anyReseats rest

end

theorem Deed.current {most : Option Nat} {command : Command} {outcome : Outcome}
    {before after : Run} (deed : Deed most command outcome before after)
    (stays : command.reseats = false) : after.current = before.current := by
  cases deed with
  | entered => cases stays
  | marked current found =>
      obtain ⟨_, _, marked⟩ := before.markProcessed_ledger current.id
      rw [marked]
  | _ => rfl

/-- A told program that leaves the current item as it is, at every moment that it notes. -/
def Stays (told : Telling σ α) : Prop :=
  ∀ session past, ∃ news, (told (session, past)).2.2 = past ++ news ∧
    (∀ moment ∈ news, moment.session.run.current = session.run.current) ∧
    (told (session, past)).2.1.run.current = session.run.current

namespace Stays

theorem pure (value : α) : Stays (Pure.pure value : Telling σ α) :=
  fun _ past => ⟨[], (List.append_nil past).symm, List.forall_mem_nil _, rfl⟩

theorem bind {told : Telling σ α} {next : α → Telling σ β} (stays : Stays told)
    (nextStays : ∀ value, Stays (next value)) : Stays (told >>= next) := by
  intro session past
  obtain ⟨news, same, along, last⟩ := stays session past
  obtain ⟨more, sameNext, alongNext, lastNext⟩ :=
    nextStays (told (session, past)).1 (told (session, past)).2.1 (told (session, past)).2.2
  refine ⟨news ++ more, ?_, ?_, lastNext.trans last⟩
  · rw [← List.append_assoc, ← same]
    exact sameNext
  · exact List.forall_mem_append.mpr
      ⟨along, fun moment found => (alongNext moment found).trans last⟩

theorem ite {condition : Prop} [Decidable condition] {told toldElse : Telling σ α}
    (stays : Stays told) (elseStays : Stays toldElse) :
    Stays (if condition then told else toldElse) := by
  split
  · exact stays
  · exact elseStays

theorem tell {prog : StateM (Session σ) α}
    (still : ∀ session, (prog session).2.run.current = session.run.current) :
    Stays (Telling.tell prog) :=
  fun session _ =>
    ⟨[{ session := (prog session).2 }], rfl, List.forall_mem_singleton.mpr (still session),
      still session⟩

theorem overdue : Stays (Telling.tell (Gleaner.overdue : StateM (Session σ) Bool)) := by
  apply tell
  intro session
  show session.checkTime.run.current = session.run.current
  rcases session.checkTime_cases with ⟨-, same⟩ | ⟨-, same⟩ <;> rw [same]

theorem discard {told : Telling σ α} (stays : Stays told) : Stays (Functor.discard told) :=
  stays.bind fun _ => .pure ()

theorem starting {command : Command} {next : Telling σ α} (stays : Stays next) :
    Stays (Telling.starting command next) := by
  intro session past
  obtain ⟨news, same, along, last⟩ :=
    stays session (past ++ [{ session, starting := some command }])
  refine ⟨{ session, starting := some command } :: news, ?_, ?_, last⟩
  · rw [List.append_cons]
    exact same
  · exact List.forall_mem_cons.mpr ⟨rfl, along⟩

/-!
### Programs that may fail
-/

theorem ok (value : α) : Stays (Pure.pure value : ExceptT Fault (Telling σ) α) :=
  .pure (Except.ok value)

theorem bindOk {told : ExceptT Fault (Telling σ) α} {next : α → ExceptT Fault (Telling σ) β}
    (stays : Stays told) (nextStays : ∀ value, Stays (next value)) :
    Stays (told >>= next : ExceptT Fault (Telling σ) β) := by
  refine @bind _ _ _ _ (ExceptT.bindCont next) stays fun result => ?_
  cases result with
  | ok value => exact nextStays value
  | error fault => exact .pure _

theorem say {prog : Interp σ α}
    (still : ∀ session, (prog session).2.run.current = session.run.current) :
    Stays (Telling.say prog) :=
  @tell _ _ (ExceptT.run prog) still

theorem looking {prog : Interp σ α} (looks : prog.Looks) : Stays (Telling.say prog) := by
  apply say
  intro session
  obtain ⟨world, reached⟩ := looks session
  rw [reached]

theorem lift {told : Telling σ α} (stays : Stays told) :
    Stays (liftM told : ExceptT Fault (Telling σ) α) :=
  @bind _ _ _ _ (fun value => Pure.pure (Except.ok value)) stays fun _ => .pure _

/-!
### Flow of control
-/

variable {host : Host σ} {told : List (Telling σ Outcome)}

theorem untilFailure (all : ∀ step ∈ told, Stays step) : Stays (Telling.untilFailure told) := by
  induction told with
  | nil => exact .pure none
  | cons step rest ih =>
      obtain ⟨first, later⟩ := List.forall_mem_cons.mp all
      refine .bind (.tell fun _ => rfl) fun session => .ite (.pure none) ?_
      exact .bind first fun outcome => .ite (ih later) (.pure _)

theorem regardless (all : ∀ step ∈ told, Stays step) : Stays (Telling.regardless told) := by
  induction told with
  | nil => exact .pure ()
  | cons step rest ih =>
      obtain ⟨first, later⟩ := List.forall_mem_cons.mp all
      exact .bind .overdue fun late => .ite (.pure ()) (.bind first.discard fun _ => ih later)

theorem choose {toldElse : List (Telling σ Outcome)} (all : ∀ step ∈ told, Stays step)
    (allElse : ∀ step ∈ toldElse, Stays step) (condition : Condition) :
    Stays (Telling.choose host condition told toldElse) := by
  refine .bindOk (.looking (Interp.evaluate_looks host condition)) fun taken => ?_
  have branch : Stays (Telling.untilFailure (if taken then told else toldElse)) := by
    cases taken with
    | true => exact untilFailure all
    | false => exact untilFailure allElse
  refine .bindOk branch.lift fun failure => ?_
  cases failure with
  | some failure => exact .ok failure
  | none => exact .ok _

theorem pass (all : ∀ step ∈ told, Stays step) : Stays (Telling.pass host told) := by
  refine .bindOk (.looking (Interp.countItems_looks host)) fun _ => ?_
  refine .bindOk (.looking .run) fun _ => ?_
  refine .bindOk (regardless all).lift fun _ => ?_
  exact .bindOk (.looking (Interp.countItems_looks host)) fun _ => say fun _ => rfl

theorem passes (all : ∀ step ∈ told, Stays step) (goal : Until) (scrollsBefore rounds left : Nat) :
    Stays (Telling.passes host goal told scrollsBefore rounds left) := by
  induction left generalizing rounds with
  | zero => exact .ok _
  | succ left ih =>
      refine .bindOk (.lift .overdue) fun late => .ite (.ok _) ?_
      refine .bindOk (pass all) fun _ => ?_
      refine .bindOk (.looking (Interp.reached_looks host _ _)) fun _ => .ite (.ok _) ?_
      exact .bindOk (.looking (Interp.noMoreItems_looks host)) fun _ => .ite (.ok _) (ih _)

/-!
### Commands
-/

theorem attempt {command : Command} {body : ExceptT Fault (Telling σ) Outcome}
    (stays : Stays body) : Stays (Telling.attempt command body) := by
  refine .starting (.bind (.tell fun _ => rfl) fun _ => @bind _ _ _ body _ stays fun result => ?_)
  cases result with
  | ok outcome => exact .pure _
  | error fault => exact .pure _

theorem plain {command : Command} (isPlain : command.isPlain = true)
    (stays : command.reseats = false) : Stays (Telling.command host command) := by
  rw [Telling.command_plain isPlain]
  refine .starting (.tell fun session => ?_)
  obtain ⟨run, world, reached, deed⟩ := command.run_deed host isPlain session
  rw [reached]
  exact deed.current stays

mutual

theorem command (command : Command) (stays : command.reseats = false) :
    Stays (Telling.command host command) := by
  cases command with
  | forEachItem body skipProcessed => cases stays
  | goToItem which => cases stays
  | choose condition thenBranch elseBranch =>
      obtain ⟨thenStays, elseStays⟩ := Bool.or_eq_false_iff.mp stays
      exact attempt (choose (commands thenBranch thenStays) (commands elseBranch elseStays) _)
  | repeatUntil body goal =>
      refine attempt (.bindOk ?_ fun _ => .ok _)
      exact .bindOk (.looking .run) fun _ => passes (commands body stays) goal _ _ _
  | _ => exact plain rfl stays

theorem commands (list : List Command) (stays : Command.anyReseats list = false) :
    ∀ step ∈ Telling.commands host list, Stays step := by
  cases list with
  | nil => exact List.forall_mem_nil _
  | cons first rest =>
      obtain ⟨here, later⟩ := Bool.or_eq_false_iff.mp stays
      exact List.forall_mem_cons.mpr ⟨command first here, commands rest later⟩

end

end Stays

/-!
## One turn after another
-/

/-- What came of an item at its turn. -/
inductive Turn where
  | passedOver
  | handled
  deriving DecidableEq, Repr

/-- How the body finds an item that is handled, and how it leaves it. -/
structure Attends (host : Host σ) (body : List Command) (current : CurrentItem)
    (entered : Session σ) : Prop where
  seated : entered.run.current = some current
  focused : entered.run.focus = some current.ref
  empty : entered.run.content = none
  /-- The item is current at every moment of the body that is told, and at its end. -/
  stays : Command.anyReseats body = false → ∀ past, ∃ news,
    Telling.untilFailure (Telling.commands host body) (entered, past) =
        ((untilFailure (Command.steps host body) entered).1,
          (untilFailure (Command.steps host body) entered).2, past ++ news) ∧
      (∀ moment ∈ news, moment.session.run.current = some current) ∧
      (untilFailure (Command.steps host body) entered).2.run.current = some current

theorem Attends.atItem (host : Host σ) (body : List Command) (current : CurrentItem)
    (session : Session σ) : Attends host body current (session.atItem current) where
  seated := rfl
  focused := rfl
  empty := rfl
  stays := by
    intro still past
    obtain ⟨news, told, _⟩ :=
      Tells.untilFailure (@Tells.commands _ host body) (session.atItem current) past
    obtain ⟨noted, same, along, last⟩ :=
      Stays.untilFailure (@Stays.commands _ host body still) (session.atItem current) past
    rw [told] at same last
    obtain rfl := List.append_cancel_left same
    exact ⟨_, told, along, last⟩

/-- The turns of some items, one after the other, from a session to another: an item that is
done at its turn is passed over where this is asked for, and any other one is handled; then the
next one has its turn, whatever the body came to. -/
inductive Turns (host : Host σ) (body : List Command) (skipProcessed : Bool) :
    Session σ → List ListItem → List Turn → Session σ → Prop where
  | done {session : Session σ} : Turns host body skipProcessed session [] [] session
  | passedOver {session final : Session σ} {item : ListItem} {rest : List ListItem}
      {log : List Turn} (current : CurrentItem) :
      session.checkTime.run.stopped = false →
      session.bindings.toCurrent item = .ok current →
      skipProcessed = true → current.id ∈ session.checkTime.run.processed →
      Turns host body skipProcessed session.checkTime rest log final →
      Turns host body skipProcessed session (item :: rest) (.passedOver :: log) final
  | handled {session final : Session σ} {item : ListItem} {rest : List ListItem}
      {log : List Turn} (current : CurrentItem) :
      session.checkTime.run.stopped = false →
      session.bindings.toCurrent item = .ok current →
      (skipProcessed = true → current.id ∉ session.checkTime.run.processed) →
      Attends host body current (session.checkTime.atItem current) →
      Turns host body skipProcessed
        (untilFailure (Command.steps host body) (session.checkTime.atItem current)).2 rest log
        final →
      Turns host body skipProcessed session (item :: rest) (.handled :: log) final

namespace Turns

variable {host : Host σ} {body : List Command} {skipProcessed : Bool} {session final : Session σ}
  {items : List ListItem} {log : List Turn}

/-- Each item has one turn: it is handled or passed over. -/
theorem count (turns : Turns host body skipProcessed session items log final) :
    log.count .handled + log.count .passedOver = items.length := by
  induction turns with
  | done => rfl
  | passedOver _ _ _ _ _ _ ih =>
      rw [List.count_cons_of_ne (by decide), List.count_cons_self, List.length_cons, ← ih,
        Nat.add_assoc]
  | handled _ _ _ _ _ _ ih =>
      rw [List.count_cons_self, List.count_cons_of_ne (by decide), List.length_cons, ← ih,
        Nat.add_right_comm]

theorem passes_over_iff {current : CurrentItem} {run : Run} :
    (skipProcessed && run.isProcessed current.id) = true ↔
      skipProcessed = true ∧ current.id ∈ run.processed := by
  rw [Bool.and_eq_true, Run.isProcessed, List.contains_iff_mem]

/-- An iteration over items that can be named: a first part of them have their turns, and it is
all of them unless the run is over. -/
theorem ofItems (named : ∀ item ∈ items, ∃ current, session.bindings.toCurrent item = .ok current)
    (handled skipped : Nat) :
    ∃ visited rest log last ended, items = visited ++ rest ∧
      Turns host body skipProcessed session visited log last ∧
      Interp.forItems skipProcessed (Command.steps host body) handled skipped items session =
        (.ok (.visited (handled + log.count .handled) (skipped + log.count .passedOver)), ended) ∧
      (rest = [] ∧ ended = last ∨
        last.checkTime.run.stopped = true ∧ ended = last.checkTime) := by
  induction items generalizing session handled skipped with
  | nil => exact ⟨[], [], [], session, session, rfl, .done, rfl, .inl ⟨rfl, rfl⟩⟩
  | cons item others ih =>
      obtain ⟨⟨current, same⟩, othersNamed⟩ := List.forall_mem_cons.mp named
      have bindings : session.checkTime.bindings = session.bindings := session.checkTime_bindings
      rw [Interp.forItems_cons, bindings, same]
      cases going : session.checkTime.run.stopped with
      | true =>
          exact ⟨[], item :: others, [], session, session.checkTime, rfl, .done, rfl,
            .inr ⟨going, rfl⟩⟩
      | false =>
          rw [if_neg Bool.false_ne_true]
          dsimp only
          cases processed : skipProcessed && session.checkTime.run.isProcessed current.id with
          | true =>
              obtain ⟨skips, found⟩ := passes_over_iff.mp processed
              rw [if_pos rfl]
              rw [← bindings] at othersNamed
              obtain ⟨visited, rest, log, last, ended, split, turns, told, ends⟩ :=
                ih othersNamed handled (skipped + 1)
              refine ⟨item :: visited, rest, .passedOver :: log, last, ended, ?_,
                .passedOver current going same skips found turns, ?_, ends⟩
              · rw [split, List.cons_append]
              · rw [told, List.count_cons_of_ne (by decide), List.count_cons_self,
                  Nat.add_assoc skipped, Nat.add_comm 1]
          | false =>
              have new : skipProcessed = true → current.id ∉ session.checkTime.run.processed :=
                fun skips found => Bool.false_ne_true
                  (processed.symm.trans (passes_over_iff.mpr ⟨skips, found⟩))
              rw [if_neg Bool.false_ne_true]
              have kept : (untilFailure (Command.steps host body)
                  (session.checkTime.atItem current)).2.bindings = session.bindings :=
                Keeps.untilFailure (Command.steps_bindings host session.bindings body) _ bindings
              rw [← kept] at othersNamed
              obtain ⟨visited, rest, log, last, ended, split, turns, told, ends⟩ :=
                ih othersNamed (handled + 1) skipped
              refine ⟨item :: visited, rest, .handled :: log, last, ended, ?_,
                .handled current going same new (.atItem host body current _) turns, ?_, ends⟩
              · rw [split, List.cons_append]
              · rw [told, List.count_cons_self, List.count_cons_of_ne (by decide),
                  Nat.add_assoc handled, Nat.add_comm 1]

end Turns

/-- An iteration whose items are listed and can be named succeeds. The items of a first part of
the list have their turns, one after the other, and it counts those that are handled and those
that are passed over. It is the whole list unless the run is stopped. -/
theorem Command.forEachItem_turns (host : Host σ) (body : List Command) (skipProcessed : Bool)
    (session : Session σ) {items : List ListItem}
    (listed : (Interp.listItems host session.counted).1 = .ok items)
    (named : ∀ item ∈ items, ∃ current, session.bindings.toCurrent item = .ok current) :
    ∃ visited rest log last final, items = visited ++ rest ∧
      Turns host body skipProcessed (Interp.listItems host session.counted).2 visited log last ∧
      (Command.forEachItem body skipProcessed).run host session =
        (.ok (.visited (log.count .handled) (log.count .passedOver)), final) ∧
      log.count .handled + log.count .passedOver = visited.length ∧
      (rest = [] ∧ final = { last with run :=
          { last.run with skipping := final.run.skipping } } ∨
        final.run.stopped = true) := by
  obtain ⟨world, looked⟩ := Interp.listItems_looks host session.counted
  have found : Interp.listItems host session.counted =
      (.ok items, (Interp.listItems host session.counted).2) := Prod.ext listed rfl
  have kept : (Interp.listItems host session.counted).2.bindings = session.bindings := by
    rw [looked]
    rfl
  rw [← kept] at named
  rw [Command.run, report_apply, Interp.forEachItem_apply, found]
  cases items with
  | nil => exact ⟨[], [], [], _, _, rfl, .done, rfl, rfl, .inl ⟨rfl, rfl⟩⟩
  | cons item others =>
      obtain ⟨visited, rest, log, last, ended, split, turns, told, ends⟩ :=
        @Turns.ofItems _ host body skipProcessed _ _ named 0 0
      rw [Nat.zero_add, Nat.zero_add] at told
      dsimp only
      rw [if_neg (List.cons_ne_nil item others), told]
      refine ⟨visited, rest, log, last, _, split, turns, rfl, turns.count, ?_⟩
      rcases ends with ⟨all, rfl⟩ | ⟨stopped, rfl⟩
      · exact .inl ⟨all, rfl⟩
      · exact .inr stopped

namespace Rehearsal

/-- A list that shows its first job once more at the end. -/
def repeatedStart : Session World :=
  Session.start clock
    { updatedAt := 0, list := "#list", listItem := ".job-card", itemId := some { source := .data } }
    { stage :=
        { items := [{ id := some "a", text := "a" }, { id := some "b", text := "b" },
            { id := some "a", text := "a" }]
          visible := 3 } }

end Rehearsal

open Rehearsal in
/-- Two items are handled although their bodies fail; the third one was done in the meantime. -/
theorem Command.forEachItem_turns_on_repeatedStart :
    ∃ visited log last, Turns { page, clock } [.markDone, .save "job"] true
        (Interp.listItems { page, clock } repeatedStart.counted).2 visited log last ∧
      visited.length = 3 ∧ log.count .passedOver = 1 ∧
      ((Command.forEachItem [.markDone, .save "job"] true).run { page, clock } repeatedStart).1 =
        .ok (.visited (log.count .handled) (log.count .passedOver)) := by
  let items : List ListItem :=
    [{ index := 0, text := "a", dataId := some "a" },
      { index := 1, text := "b", dataId := some "b" },
      { index := 2, text := "a", dataId := some "a" }]
  have listed : (Interp.listItems { page, clock } repeatedStart.counted).1 = .ok items := by
    have read :
        (Interp.listItems { page, clock } repeatedStart.counted).1.toOption = some items := by
      decide +kernel
    cases found : (Interp.listItems { page, clock } repeatedStart.counted).1 with
    | ok others =>
        rw [found] at read
        cases read
        rfl
    | error fault =>
        rw [found] at read
        cases read
  have named : ∀ item ∈ items, ∃ current, repeatedStart.bindings.toCurrent item = .ok current := by
    intro item found
    have told : ∀ item ∈ items, (repeatedStart.bindings.toCurrent item).isOk = true := by
      decide +kernel
    cases same : repeatedStart.bindings.toCurrent item with
    | ok current => exact ⟨current, rfl⟩
    | error fault =>
        have told := told item found
        rw [same] at told
        cases told
  have outcome : ((Command.forEachItem [.markDone, .save "job"] true).run { page, clock }
      repeatedStart).1 = .ok (.visited 2 1) := by
    decide +kernel
  obtain ⟨visited, rest, log, last, final, split, turns, ran, all, ends⟩ :=
    Command.forEachItem_turns { page, clock } [.markDone, .save "job"] true repeatedStart listed
      named
  rw [ran] at outcome ⊢
  obtain ⟨handled, skipped⟩ := Report.visited.inj (Outcome.ok.inj outcome)
  exact ⟨visited, log, last, turns, by rw [← all, handled, skipped], skipped, rfl⟩

end Gleaner
