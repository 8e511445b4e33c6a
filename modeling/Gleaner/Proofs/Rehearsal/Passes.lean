import Gleaner.Proofs.Rehearsal.Listing

/-!
# Pass after pass

A pass of the extraction loop takes what is in sight and then scrolls, which brings more into
sight unless the run has stopped. A pass without news is the last that could bring any, so
giving up after it loses nothing.
-/

set_option autoImplicit false

namespace Gleaner

open Rehearsal

variable {stage : Stage} {b : PageBindings} {visible most done : Nat} {session : Session World}
  {active : Option Nat} {settings : RunSettings} {repairer : Option (Repairer World)}

/-!
## Looking around
-/

/-- What is shown in a session. -/
abbrev Showing (stage : Stage) (visible : Nat) (active : Option Nat) (session : Session World) :
    Prop :=
  Shows stage visible active session.world

namespace Interp

theorem look_keeps {α : Type} (method : String) (args : List Json) (f : World → α) :
    Keeps (Showing stage visible active) (act (World.look method args f)) := by
  intro session shows
  obtain ⟨after, looked, _, kept⟩ := World.look_calm shows method args f
  rw [act_apply, looked]
  exact kept

theorem pause_keeps (span : Span) :
    Keeps (Showing stage visible active) (act (World.pause span)) := by
  intro session shows
  rw [act_apply]
  unfold World.pause
  cases World.pauseLength span with
  | error fault => exact shows
  | ok us => exact ⟨shows.latency, shows.faults, shows.shown⟩

theorem looks_then {α : Type} {prog : Interp World α} (looks : Looks prog)
    (keeps : Keeps (Showing stage visible active) prog) (shows : Showing stage visible active session) :
    ∃ world, (prog session).2 = { session with world } ∧ Shows stage visible active world := by
  obtain ⟨world, reached⟩ := looks session
  have kept := keeps session shows
  rw [reached] at kept
  exact ⟨world, reached, kept⟩

mutual

theorem holds_keeps (condition : StateCondition) :
    Keeps (Showing stage visible active) (holds (host settings repairer) condition) := by
  cases condition with
  | present selector => exact look_keeps _ _ _
  | visible selector => exact look_keeps _ _ _
  | gone selector => exact (look_keeps _ _ _).bindOk fun _ => .ok _
  | countChanged selector =>
      exact (look_keeps _ _ _).bindOk fun _ => .bindOk (fun _ shows => shows) fun _ => .ok _
  | countAtLeast selector least => exact (look_keeps _ _ _).bindOk fun _ => .ok _
  | urlContains text => exact .bindOk (fun _ shows => shows) fun _ => .ok _
  | urlMatches pattern =>
      refine .bindOk (fun _ shows => shows) fun session before shows => ?_
      rw [liftExcept_apply]
      exact shows
  | allOf parts => exact allHold_keeps parts
  | anyOf parts => exact anyHolds_keeps parts

theorem allHold_keeps (parts : List StateCondition) :
    Keeps (Showing stage visible active) (allHold (host settings repairer) parts) := by
  cases parts with
  | nil => exact .ok _
  | cons part rest =>
      exact (holds_keeps part).bindOk fun _ => .ite (allHold_keeps rest) (.ok _)

theorem anyHolds_keeps (parts : List StateCondition) :
    Keeps (Showing stage visible active) (anyHolds (host settings repairer) parts) := by
  cases parts with
  | nil => exact .ok _
  | cons part rest =>
      exact (holds_keeps part).bindOk fun _ => .ite (.ok _) (anyHolds_keeps rest)

end

end Interp

/-!
## Bringing more into sight
-/

/-- A run that goes on, and where the length of the list was noted when so many were in sight. -/
structure Stands.Noted (stage : Stage) (b : PageBindings) (visible most done shown : Nat)
    (session : Session World) : Prop where
  stands : Stands stage b visible most done session
  going : session.run.stopped = false
  noted : session.run.checkpoint = shown

section Loading

variable (fair : stage.Fair) (fits : stage.Fits b)

include fair fits

theorem Stands.countItems (stands : Stands stage b visible most done session) :
    ∃ world, Interp.countItems (host settings repairer) session =
      (.ok (visible : Int), { session with world }) ∧
        Stands stage b visible most done { session with world } := by
  obtain ⟨active, shows, last⟩ := stands.shows
  have bound : session.bindings.listItem = stage.listItem := by
    rw [stands.bindings]
    exact fits.listItem
  obtain ⟨world, counted, kept⟩ := @Interp.countItems_gives _ _ _ _ settings repairer shows fair
    bound
  exact ⟨world, counted, stands.onward ⟨rfl, rfl, rfl, id, rfl⟩ rfl (Nat.le_refl _) stands.listed
    kept last⟩

theorem Stands.noteCount (stands : Stands stage b visible most done session)
    (going : session.run.stopped = false) :
    Stands.Noted stage b visible most done visible
      (Command.checkpointCount.run (host settings repairer) session).2 := by
  obtain ⟨world, counted, after⟩ := @Stands.countItems _ _ _ _ _ _ settings repairer fair fits
    stands.counted
  obtain ⟨active, shows, last⟩ := after.shows
  show Stands.Noted _ _ _ _ _ _ (report (Interp.noteCount (host settings repairer)) session).2
  rw [report_apply]
  simp only [Interp.noteCount, Interp.bind_apply, counted, Interp.update_apply, Interp.pure_apply]
  refine ⟨?_, going, rfl⟩
  exact after.onward ⟨rfl, rfl, rfl, id, rfl⟩ rfl (Nat.le_refl _) after.listed shows last

omit fair fits in
theorem Stands.Noted.scroll {shown : Nat} (noted : Stands.Noted stage b visible most done shown session) :
    Stands.Noted stage b (min stage.items.length (visible + stage.reveal)) most done shown
      ((Command.scroll .list .down).run (host settings repairer) session).2 := by
  obtain ⟨active, shows, last⟩ := noted.stands.shows
  obtain ⟨after, called, same, latency, faults⟩ := World.change_calm shows "scroll_to_next_page"
    [.ofString? session.bindings.scrollContainer] Stage.scrollDown
  obtain ⟨scrollY, shown⟩ := shows.shown
  have listed := noted.stands.listed
  have kept : Shows stage (min stage.items.length (visible + stage.reveal)) active after := by
    refine ⟨latency, faults, ?_⟩
    rw [same, shown]
    exact ⟨_, rfl⟩
  have acted : page.scrollDown session.bindings.scrollContainer session.world = (.ok (), after) :=
    called
  show Stands.Noted _ _ _ _ _ _
    (report (Interp.scroll (host settings repairer) .list .down) session).2
  rw [report_apply]
  simp only [Interp.scroll, Interp.bind_apply, Interp.update_apply, Interp.bindings_apply,
    Interp.acting, Interp.act_apply, Session.counted, host, acted, Interp.pure_apply]
  refine ⟨?_, noted.going, noted.noted⟩
  exact noted.stands.onward ⟨rfl, rfl, rfl, id, rfl⟩ rfl (by omega) (Nat.min_le_left _ _) kept last

end Loading

section Around

variable {shown : Nat}

namespace Stands.Noted

/-- Looking around leaves a run where it is, whatever it finds. -/
theorem looks {α : Type} {prog : Interp World α} (looks : prog.Looks)
    (keeps : ∀ active, Keeps (Showing stage visible active) prog) :
    Keeps (Stands.Noted stage b visible most done shown) prog := by
  intro session noted
  obtain ⟨active, shows, last⟩ := noted.stands.shows
  obtain ⟨world, reached, kept⟩ := Interp.looks_then looks (keeps active) shows
  rw [reached]
  refine ⟨?_, noted.going, noted.noted⟩
  exact noted.stands.onward ⟨rfl, rfl, rfl, id, rfl⟩ rfl (Nat.le_refl _) noted.stands.listed kept
    last

theorem attempt {body : Interp World Outcome}
    (keeps : Keeps (Stands.Noted stage b visible most done shown) body) :
    Keeps (Stands.Noted stage b visible most done shown) (Gleaner.attempt body) := by
  intro session noted
  have kept := keeps session.counted ⟨noted.stands.counted, noted.going, noted.noted⟩
  rw [attempt_apply]
  rcases ran : body session.counted with ⟨fault | outcome, after⟩
  all_goals
    rw [ran] at kept
    exact kept

theorem report {body : Interp World Report}
    (keeps : Keeps (Stands.Noted stage b visible most done shown) body) :
    Keeps (Stands.Noted stage b visible most done shown) (Gleaner.report body) :=
  attempt (.bindOk keeps fun _ => .ok _)

theorem wait (seconds : Float) : Keeps (Stands.Noted stage b visible most done shown)
    ((Command.wait seconds).run (host settings repairer)) :=
  report (looks (Interp.acting_looks _ _) fun _ => (Interp.pause_keeps _).bindOk fun _ => .ok _)

/-- A button that is not bound is not there to be clicked. -/
theorem clickIfExists {name : String} (unbound : b.selectorFor? name = none) :
    Keeps (Stands.Noted stage b visible most done shown)
      ((Command.clickIfExists name).run (host settings repairer)) := by
  refine report fun session noted => ?_
  have nothing : Interp.clickIfExists (host settings repairer) name session =
      (.ok (.clicked false), session) := by
    simp only [Interp.clickIfExists, Interp.lookFor, Interp.bind_apply, Interp.bindings_apply,
      noted.stands.bindings, unbound, Interp.pure_apply]
    rfl
  rw [nothing]
  exact noted

theorem newItems (fair : stage.Fair) (fits : stage.Fits b) :
    Keeps (Stands.Noted stage b visible most done shown)
      (Interp.evaluate (host settings repairer) (.not .newItems)) := by
  have counts : Keeps (Stands.Noted stage b visible most done shown)
      (Interp.countItems (host settings repairer)) := by
    intro session noted
    obtain ⟨world, counted, after⟩ := @Stands.countItems _ _ _ _ _ _ settings repairer fair fits
      noted.stands
    rw [counted]
    exact ⟨after, noted.going, noted.noted⟩
  exact .bindOk (counts.bindOk fun _ => .bindOk (fun _ noted => noted) fun _ => .ok _) fun _ =>
    .ok _

/-- The buttons for more items are tried in vain. -/
theorem tryButtons (fair : stage.Fair) (fits : stage.Fits b) :
    Keeps (Stands.Noted stage b visible most done shown)
      ((Command.choose (.not .newItems)
        [.clickIfExists "loadMoreButton", .clickIfExists "nextPageButton", .wait 2] []).run
          (host settings repairer)) := by
  have loadMore : b.selectorFor? "loadMoreButton" = none := by
    simp [PageBindings.selectorFor?, fits.loadMoreButton]
  have nextPage : b.selectorFor? "nextPageButton" = none := by
    simp [PageBindings.selectorFor?, fits.nextPageButton]
  have buttons : ∀ command ∈
      [Command.clickIfExists "loadMoreButton", .clickIfExists "nextPageButton", .wait 2],
      Keeps (Stands.Noted stage b visible most done shown)
        (command.run (host settings repairer)) := by
    simp only [List.forall_mem_cons]
    exact ⟨clickIfExists loadMore, clickIfExists nextPage, wait 2, List.forall_mem_nil _⟩
  refine attempt (.bindOk (newItems fair fits) fun taken => .bindOk ?_ fun failure => ?_)
  · refine .bind ?_ fun _ => .pure _
    cases taken with
    | true => exact .untilFailure (.steps buttons)
    | false => exact .pure none
  · cases failure with
    | none => exact .ok _
    | some failure => exact .ok failure

end Stands.Noted

/-- What follows the items brings more of them into sight. -/
theorem Stands.loadMore (fair : stage.Fair) (fits : stage.Fits b)
    (stands : Stands stage b visible most done session) (going : session.run.stopped = false) :
    Stands.Noted stage b (min stage.items.length (visible + stage.reveal)) most done visible
      (regardless (Command.steps (host settings repairer) Template.loadMore) session).2 := by
  simp only [Template.loadMore, Command.steps]
  have noted := @Stands.noteCount _ _ _ _ _ _ settings repairer fair fits stands going
  have scrolled := @Stands.Noted.scroll _ _ _ _ _ _ settings repairer _ noted
  have waited := @Stands.Noted.wait _ _ _ _ _ settings repairer _ 1.5 _ scrolled
  have tried := @Stands.Noted.tryButtons _ _ _ _ _ settings repairer _ fair fits _ waited
  rw [regardless_going stands.untimed going, regardless_going noted.stands.untimed noted.going,
    regardless_going scrolled.stands.untimed scrolled.going,
    regardless_going waited.stands.untimed waited.going, regardless_nil]
  dsimp only
  exact tried

end Around

/-!
## One pass
-/

/-- The body of the extraction loop. -/
def Template.passBody : List Command := takeItems :: loadMore

section Pass

variable (usable : settings.Usable) (fair : stage.Fair) (fits : stage.Fits b)

include usable fair fits

/-- The body takes what is in sight; then the run has stopped, or has brought more into sight. -/
theorem Stands.passBody (stands : Stands stage b visible most done session)
    (going : session.run.stopped = false) :
    ∃ after, regardless (Command.steps (host settings repairer) Template.passBody) session =
        ((), after) ∧
      (Stands stage b visible most most after ∧ after.run.stopped = true ∨
        Stands.Noted stage b (min stage.items.length (visible + stage.reveal)) most visible visible
          after) := by
  have taken := @Stands.takeItems _ _ _ _ _ _ settings repairer usable fair fits stands
  rw [Template.passBody, Command.steps, regardless_going stands.untimed going]
  generalize (Template.takeItems.run (host settings repairer) session).2 = after at taken
  rcases taken.goes with ⟨goes, room⟩ | ⟨stopped, full⟩
  · have all : min visible most = visible := by omega
    rw [all] at taken
    exact ⟨_, rfl, .inr (taken.loadMore fair fits goes)⟩
  · rw [full] at taken
    rw [regardless_stopped _ taken.untimed stopped]
    exact ⟨after, rfl, .inl ⟨taken, stopped⟩⟩

/-- After a pass the run has stopped, or it was stale only if there is no more to come. -/
theorem Stands.pass (stands : Stands stage b visible most done session)
    (going : session.run.stopped = false) :
    ∃ after, Interp.pass (host settings repairer)
        (Command.steps (host settings repairer) Template.passBody) session = (.ok (), after) ∧
      (Stands stage b visible most most after ∧ after.run.stopped = true ∨
        Stands.Noted stage b (min stage.items.length (visible + stage.reveal)) most visible visible
          after ∧
        (after.run.staleRounds = 0 ∨
          min stage.items.length (visible + stage.reveal) = visible)) := by
  obtain ⟨world, counted, before⟩ := @Stands.countItems _ _ _ _ _ _ settings repairer fair fits
    stands
  obtain ⟨after, ran, ends⟩ := @Stands.passBody _ _ _ _ _ _ settings repairer usable fair fits
    before going
  unfold Interp.pass
  simp only [Interp.bind_apply, counted, Interp.run_apply, Interp.liftState_apply, ran]
  rcases ends with ⟨stands, stopped⟩ | ⟨noted⟩
  · obtain ⟨world, counted, final⟩ := @Stands.countItems _ _ _ _ _ _ settings repairer fair fits
      stands
    obtain ⟨active, shows, last⟩ := final.shows
    simp only [counted, Interp.update_apply]
    refine ⟨_, rfl, .inl ⟨?_, stopped⟩⟩
    exact final.onward ⟨rfl, rfl, rfl, id, rfl⟩ rfl (Nat.le_refl _) final.listed shows last
  · obtain ⟨world, counted, final⟩ := @Stands.countItems _ _ _ _ _ _ settings repairer fair fits
      noted.stands
    obtain ⟨active, shows, last⟩ := final.shows
    simp only [counted, Interp.update_apply]
    refine ⟨_, rfl, .inr ⟨⟨?_, noted.going, noted.noted⟩, ?_⟩⟩
    · exact final.onward ⟨rfl, rfl, rfl, id, rfl⟩ rfl (Nat.le_refl _) final.listed shows last
    · have listed := stands.listed
      dsimp only
      split
      next news => exact .inl rfl
      next stale =>
        right
        simp at stale
        omega

end Pass

/-!
## The loop
-/

/-- A list that a scroll does not make longer is not made longer by many. -/
theorem inSight_of_stale {all inSight reveal : Nat} (times : Nat)
    (stale : min all (inSight + reveal) = inSight) :
    min all (inSight + times * reveal) = inSight := by
  rcases Nat.eq_zero_or_pos reveal with none | some
  · subst none
    rw [Nat.mul_zero]
    omega
  · omega

/-- After a pass over the first `shown` items, and the scroll that follows it, the record does not
say that there are no more items. -/
def Rehearsal.Stage.Continues (stage : Stage) (b : PageBindings) (host : Host World)
    (first : Nat) : Prop :=
  ∀ condition, b.states.noMoreItems = some condition →
    ∀ (shown : Nat) (session : Session World), first ≤ shown → shown ≤ stage.items.length →
      session.bindings = b → session.run.checkpoint = shown →
      Shows stage (min stage.items.length (shown + stage.reveal)) (some (shown - 1))
        session.world →
      (Interp.holds host condition session).1 = .ok false

/-- The goal of the loop: enough is saved, or nothing new came up for long, or the page says so. -/
theorem Interp.reached_enough {σ : Type} (host : Host σ) (before count : Nat)
    (session : Session σ) :
    reached host before (.any [.collected count, .noMoreItems]) session =
      if count ≤ session.run.collected.length then (.ok true, session)
      else if host.settings.noNewItemsLimit ≤ session.run.staleRounds then (.ok true, session)
      else Interp.noMoreItems host session := by
  simp only [reached, anyReached, bind_apply, run_apply, pure_apply]
  by_cases enough : count ≤ session.run.collected.length
  · simp [enough]
  · by_cases stale : host.settings.noNewItemsLimit ≤ session.run.staleRounds
    · simp [enough, stale, bind_apply]
    · simp only [enough, stale, bind_apply, run_apply, decide_false, Bool.false_eq_true,
        ↓reduceIte]
      rcases Interp.noMoreItems host session with ⟨fault | _ | _, after⟩ <;> rfl

section Turn

variable {σ : Type} {host : Host σ} {goal : Until} {body : List (Step σ)} {before rounds : Nat}
  {session after looked final : Session σ}

/-- A pass that reaches the goal is the last one. -/
theorem Interp.passes_reached (left : Nat) (going : session.checkTime.run.stopped = false)
    (passed : pass host body session.checkTime = (.ok (), after))
    (ends : reached host before goal after = (.ok true, final)) :
    passes host goal body before rounds (left + 1) session =
      (.ok (.repeated (rounds + 1) false), final) := by
  rw [passes_succ, going, passed]
  simp only [Bool.false_eq_true, ↓reduceIte, ends]

/-- A pass that neither reaches the goal nor the end of the list is followed by the others. -/
theorem Interp.passes_goesOn (left : Nat) (going : session.checkTime.run.stopped = false)
    (passed : pass host body session.checkTime = (.ok (), after))
    (missed : reached host before goal after = (.ok false, looked))
    (more : noMoreItems host looked = (.ok false, final)) :
    passes host goal body before rounds (left + 1) session =
      passes host goal body before (rounds + 1) left final := by
  rw [passes_succ, going, passed]
  simp only [Bool.false_eq_true, ↓reduceIte, missed, more]

end Turn

section Loop

variable {first shown : Nat} (positive : 1 ≤ first)
  (continues : stage.Continues b (host settings repairer) first)

include positive continues

theorem Stands.Noted.noMoreItems (from_first : first ≤ shown) (listed : shown ≤ stage.items.length)
    (noted : Stands.Noted stage b (min stage.items.length (shown + stage.reveal)) most shown shown
      session) :
    ∃ after, Interp.noMoreItems (host settings repairer) session = (.ok false, after) ∧
      Stands.Noted stage b (min stage.items.length (shown + stage.reveal)) most shown shown
        after := by
  simp only [Interp.noMoreItems, Interp.bind_apply, Interp.bindings_apply, noted.stands.bindings]
  cases named : b.states.noMoreItems with
  | none => exact ⟨session, rfl, noted⟩
  | some condition =>
      obtain ⟨active, shows, last⟩ := noted.stands.shows
      have active : active = some (shown - 1) := last (by omega)
      subst active
      have answer := continues condition named shown session from_first listed
        noted.stands.bindings noted.noted shows
      have kept := Stands.Noted.looks (Interp.holds_looks (host settings repairer) condition)
        (fun _ => Interp.holds_keeps condition) session noted
      exact ⟨_, Prod.ext answer rfl, kept⟩

/-- While there is room and news, the goal of the loop is not reached. -/
theorem Stands.Noted.reached (before : Nat) (from_first : first ≤ shown)
    (noted : Stands.Noted stage b (min stage.items.length (shown + stage.reveal)) most shown shown
      session) (room : shown < most) (listed : shown ≤ stage.items.length) :
    ∃ answer after, Interp.reached (host settings repairer) before
        (.any [.collected most, .noMoreItems]) session = (.ok answer, after) ∧
      Stands.Noted stage b (min stage.items.length (shown + stage.reveal)) most shown shown
        after ∧
      (answer = true → settings.noNewItemsLimit ≤ session.run.staleRounds) := by
  have more : ¬most ≤ session.run.collected.length := by
    rw [noted.stands.collected_length]
    omega
  obtain ⟨after, looked, kept⟩ := noted.noMoreItems positive continues from_first listed
  rw [Interp.reached_enough, if_neg more]
  by_cases stale : settings.noNewItemsLimit ≤ session.run.staleRounds
  · rw [show (host settings repairer).settings = settings from rfl, if_pos stale]
    exact ⟨true, session, rfl, noted, fun _ => stale⟩
  · rw [show (host settings repairer).settings = settings from rfl, if_neg stale]
    exact ⟨false, after, looked, kept, fun found => by cases found⟩

/-- One pass ends the loop with everything that there is room for or that can come, or it is
followed by the others with more in sight. -/
theorem Stands.turn (usable : settings.Usable) (fair : stage.Fair) (fits : stage.Fits b)
    (before rounds left : Nat) (from_first : first ≤ visible)
    (stands : Stands stage b visible most done session) (going : session.run.stopped = false) :
    ∃ more total final, Stands stage b more most total final ∧
      (Interp.passes (host settings repairer) (.any [.collected most, .noMoreItems])
          (Command.steps (host settings repairer) Template.passBody) before rounds (left + 1)
          session = (.ok (.repeated (rounds + 1) false), final) ∧
        (total = most ∧ most ≤ visible ∨
          total = visible ∧ visible < most ∧
            min stage.items.length (visible + stage.reveal) = visible) ∨
      Interp.passes (host settings repairer) (.any [.collected most, .noMoreItems])
          (Command.steps (host settings repairer) Template.passBody) before rounds (left + 1)
          session =
        Interp.passes (host settings repairer) (.any [.collected most, .noMoreItems])
          (Command.steps (host settings repairer) Template.passBody) before (rounds + 1) left
          final ∧
        final.run.stopped = false ∧ total = visible ∧
          more = min stage.items.length (visible + stage.reveal)) := by
  have listed := stands.listed
  have goes : session.checkTime.run.stopped = false := by
    rw [stands.checkTime]
    exact going
  obtain ⟨after, ran, ends⟩ := @Stands.pass _ _ _ _ _ _ settings repairer usable fair fits
    stands going
  rw [← stands.checkTime] at ran
  rcases ends with ⟨full, stopped⟩ | ⟨noted, news⟩
  · have enough : most ≤ after.run.collected.length := Nat.le_of_eq full.collected_length.symm
    have reached : Interp.reached (host settings repairer) before
        (.any [.collected most, .noMoreItems]) after = (.ok true, after) := by
      rw [Interp.reached_enough, if_pos enough]
    exact ⟨_, _, _, full, .inl ⟨Interp.passes_reached left goes ran reached,
      .inl ⟨rfl, full.inSight⟩⟩⟩
  · have room := noted.stands.room noted.going
    obtain ⟨answer, looked, reached, kept, stale⟩ := noted.reached positive continues before
      from_first room listed
    cases answer with
    | true =>
        have stale := stale rfl
        have last : min stage.items.length (visible + stage.reveal) = visible := by
          have limit := usable.stale
          rcases news with fresh | last
          · omega
          · exact last
        exact ⟨_, _, _, kept.stands, .inl ⟨Interp.passes_reached left goes ran reached,
          .inr ⟨rfl, room, last⟩⟩⟩
    | false =>
        obtain ⟨again, more, kept⟩ := kept.noMoreItems positive continues from_first listed
        exact ⟨_, _, _, kept.stands, .inr ⟨Interp.passes_goesOn left goes ran reached more,
          kept.going, rfl, rfl⟩⟩

/-- So many passes and one more take as many items as that many scrolls bring into sight, as far as
there is room. A run that ends the loop early has no more to come. -/
theorem Stands.passes (usable : settings.Usable) (fair : stage.Fair) (fits : stage.Fits b)
    (before rounds left : Nat) (from_first : first ≤ visible)
    (stands : Stands stage b visible most done session) (going : session.run.stopped = false) :
    ∃ answer sight final, Interp.passes (host settings repairer)
        (.any [.collected most, .noMoreItems])
        (Command.steps (host settings repairer) Template.passBody) before rounds (left + 1) session =
          (.ok answer, final) ∧
      Stands stage b sight most
        (min most (min stage.items.length (visible + left * stage.reveal))) final := by
  induction left generalizing visible done session rounds with
  | zero =>
      have listed := stands.listed
      obtain ⟨more, total, final, stands, turn⟩ := stands.turn positive continues usable fair fits
        before rounds 0 from_first going
      have enough : total = min most (min stage.items.length (visible + 0 * stage.reveal)) := by
        have goes := stands.goes
        rcases turn with ⟨_, full | stale⟩ | ⟨_, goingOn, all, _⟩
        · omega
        · omega
        · have room := stands.room goingOn
          omega
      rw [← enough]
      rcases turn with ⟨ends, _⟩ | ⟨goesOn, _⟩
      · exact ⟨_, more, final, ends, stands⟩
      · exact ⟨_, more, final, goesOn, stands⟩
  | succ left ih =>
      have listed := stands.listed
      have further : visible + (left + 1) * stage.reveal =
          visible + stage.reveal + left * stage.reveal := by
        rw [Nat.succ_mul]
        omega
      obtain ⟨more, total, final, stands, turn⟩ := stands.turn positive continues usable fair fits
        before rounds (left + 1) from_first going
      rcases turn with ⟨ends, full | ⟨all, room, stale⟩⟩ | ⟨goesOn, goingOn, all, grown⟩
      · have enough : total =
            min most (min stage.items.length (visible + (left + 1) * stage.reveal)) := by omega
        rw [← enough]
        exact ⟨_, more, final, ends, stands⟩
      · rw [inSight_of_stale (left + 1) stale, Nat.min_eq_right (Nat.le_of_lt room), ← all]
        exact ⟨_, more, final, ends, stands⟩
      · have same : min stage.items.length (visible + (left + 1) * stage.reveal) =
            min stage.items.length (more + left * stage.reveal) := by omega
        rw [same, goesOn]
        exact ih (rounds + 1) (by omega) stands goingOn

end Loop

end Gleaner
