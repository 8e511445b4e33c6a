import Gleaner.Proofs.Rehearsal.Calm
import Gleaner.Proofs.Run.Details
import Gleaner.Proofs.Run.Ledger

/-!
# Taking one item

On a fair stage in a calm world each command of the body for an item does what it is for: the
click shows the details, the wait sees them at once, and the item is saved under its own id and
marked as done, unless its save was the one that reached the bound.
-/

set_option autoImplicit false

namespace Gleaner

/-!
## The commands of the body
-/

namespace Rehearsal

def StageItem.card (item : StageItem) (index : Nat) : ListItem :=
  { index, text := item.text, href := item.href, dataId := item.id }

/-- The cards that a stage shows when so many items are visible. -/
def Stage.cards (stage : Stage) (visible : Nat) : List ListItem :=
  (stage.items.take visible).zipIdx.map fun (item, index) => item.card index

def Stage.ids (stage : Stage) : List String :=
  stage.items.map fun item => item.id.getD ""

def Stage.current (stage : Stage) (item : StageItem) (index : Nat) : CurrentItem :=
  { id := item.id.getD ""
    index
    ref := .indexed stage.listItem index
    text := item.text
    href := item.href }

theorem Stage.toCurrent_card {stage : Stage} {b : PageBindings} {item : StageItem}
    (fair : stage.Fair) (fits : stage.Fits b) (found : item ∈ stage.items) (index : Nat) :
    b.toCurrent (item.card index) = .ok (stage.current item index) := by
  obtain ⟨rule, itemId, source⟩ := fits.itemId
  obtain ⟨id, named, some⟩ := fair.named item found
  have itemIdOf : b.itemIdOf (item.card index) = .ok id := by
    unfold PageBindings.itemIdOf ItemIdRule.itemId ItemIdRule.candidate
    rw [itemId, Option.getD_some, source]
    simp [StageItem.card, named, some, bind, Except.bind, pure, Except.pure]
  unfold PageBindings.toCurrent
  rw [itemIdOf, fits.listItem]
  simp [Stage.current, StageItem.card, named, bind, Except.bind, pure, Except.pure]

end Rehearsal

namespace Interp

open Rehearsal

variable {session : Session World} {stage : Stage} {visible : Nat} {active : Option Nat}
  {settings : RunSettings} {repairer : Option (Repairer World)}
  (shows : Shows stage visible active session.world) (fair : stage.Fair)
  (fits : stage.Fits session.bindings)

include shows fair fits

theorem listItems_gives :
    Gives (listItems (host settings repairer)) session (stage.cards visible)
      (Shows stage visible active) := by
  obtain ⟨rule, itemId, source⟩ := fits.itemId
  have selector : session.bindings.itemSelector = .ok stage.listItem := by
    unfold PageBindings.itemSelector
    rw [fits.listItem, fair.listItem_named]
    rfl
  have attrName : (session.bindings.itemId.bind fun rule =>
      if rule.source = .attr then rule.attrName else none) = none := by
    rw [itemId, Option.bind_some, source]
    rfl
  refine .bindings (.liftOk selector ?_)
  dsimp only
  rw [attrName]
  obtain ⟨after, looked, same, kept⟩ := World.look_calm shows "query_selector_all"
    [.str stage.listItem, .ofString? (session.bindings.itemId.bind (·.selector)), .ofString? none]
    fun world => if stage.listItem = world.stage.listItem then world.stage.listed none else []
  refine .act ⟨after, looked.trans ?_, kept⟩
  obtain ⟨scrollY, shown⟩ := kept.shown
  rw [shown, if_pos rfl]
  rfl

omit fair in
/-- A click on a visible item shows its details. -/
theorem click_gives {index : Nat} (inSight : index < visible)
    (focused : session.run.focus = some (.indexed stage.listItem index)) :
    Gives (click (host settings repairer)) session (.clicked true)
      (Shows stage visible (some index)) := by
  have shown_in_place : ¬((session.run.current.any fun current =>
      current.ref = .indexed stage.listItem index) &&
        session.bindings.clickBehavior = some .inPlace) = true := by
    simp [fits.clickBehavior]
  obtain ⟨called, ran, same, latency, faults⟩ :=
    World.call_calm shows "click" [.str (ElementRef.indexed stage.listItem index).describe]
  obtain ⟨scrollY, shown⟩ := shows.shown
  have pressed : Gives (act (page.click (.indexed stage.listItem index))) session true
      (Shows stage visible (some index)) := by
    refine .act ⟨{ called with stage := { called.stage with active := some index } }, ?_, latency,
      faults, scrollY, ?_⟩
    · show (World.call "click" [.str _] >>= _ : Action World Bool) session.world = _
      simp only [bind, ExceptT.bind, ExceptT.mk, StateT.bind, ran]
      show (Except.ok (called.stage.click called.us (.indexed stage.listItem index)).1,
        { called with stage := (called.stage.click called.us (.indexed stage.listItem index)).2 }) = _
      simp [Stage.click, same, shown, inSight]
    · rw [same, shown]
  have focusedOn : Interp.focused "CLICK" session =
      (.ok (.indexed stage.listItem index), session) := by
    simp only [Interp.focused, bind_apply, run_apply, focused, pure_apply]
  refine .seen focusedOn (.run (.bindings ?_))
  rw [if_neg shown_in_place]
  exact pressed.bind fun world kept => .pure _ kept

theorem readPatiently_gives {index : Nat} {item : StageItem}
    (found : stage.items[index]? = some item) (active_eq : active = some index)
    (tries : 1 ≤ settings.extractRetries) :
    ∃ text, text ≠ "" ∧
      Gives (readPatiently (host settings repairer) (session.bindings.detailGroups none)
        settings.extractRetries) session text (Shows stage visible active) := by
  obtain ⟨after, looked, same, kept⟩ := World.look_calm shows "get_text_from_selector"
    [.str stage.details] fun world => world.stage.textsOf stage.details
  obtain ⟨scrollY, shown⟩ := kept.shown
  have texts : after.stage.textsOf stage.details = item.details := by
    rw [shown, active_eq]
    simp [Stage.textsOf, fair.texts, Entries.find?, found]
  have groups : ∃ rest, session.bindings.detailGroups none = [stage.details] :: rest := by
    unfold PageBindings.detailGroups
    dsimp only
    rw [if_neg fits.clickBehavior, fits.detailsContent]
    exact ⟨_, rfl⟩
  have group : readGroup (host settings repairer) [stage.details] session =
      (.ok item.details, { session with world := after }) := by
    have acted : page.texts stage.details session.world = (.ok item.details, after) :=
      looked.trans (by rw [texts])
    simp only [readGroup, bind_apply, act_apply, host, acted, pure_apply, List.append_nil]
  have content : joinTexts item.details ≠ "" :=
    joinTexts_ne_empty (fair.detailed item (List.mem_of_getElem? found))
  obtain ⟨rest, groups⟩ := groups
  obtain ⟨retries, more⟩ : ∃ retries, settings.extractRetries = retries + 1 :=
    ⟨settings.extractRetries - 1, by omega⟩
  refine ⟨joinTexts item.details, content, after, ?_, kept⟩
  rw [groups, more]
  exact readPatiently_apply_of_text _ retries group content

omit shows fair fits in
include shows fair fits in
theorem extractDetails_ran {index : Nat} {item : StageItem}
    (found : stage.items[index]? = some item) (active_eq : active = some index)
    (tries : 1 ≤ settings.extractRetries) :
    ∃ text world, text ≠ "" ∧ Shows stage visible active world ∧
      extractDetails (host settings repairer) none session =
        (.ok (.extracted text.length),
          { session with run := { session.run with content := some text }, world }) := by
  obtain ⟨text, readable, world, read, kept⟩ :=
    @readPatiently_gives _ _ _ _ settings repairer shows fair fits _ _ found active_eq tries
  refine ⟨text, world, readable, kept, ?_⟩
  have groups : session.bindings.detailGroups none ≠ [] := by
    unfold PageBindings.detailGroups
    dsimp only
    rw [if_neg fits.clickBehavior, fits.detailsContent]
    exact List.cons_ne_nil _ _
  exact extractDetails_apply_of_read _ groups read readable

omit shows fair fits in
theorem save_ran {σ : Type} (host : Host σ) (label : String) (session : Session σ)
    {current : CurrentItem} {text : String} (chosen : session.run.current = some current)
    (content : session.run.content = some text) (readable : text ≠ "") :
    ∃ report item, item.id = current.id ∧
      save host label session =
        (.ok report, { session with run := session.run.keep session.maxItems item }) := by
  refine ⟨.counted (session.run.collected.length + 1), ⟨current.id, text,
    host.clock.time session.world, label⟩, rfl, ?_⟩
  simp only [save, bind_apply, get_apply, chosen, content]
  rw [if_neg readable]
  simp [bind_apply, Run.keep]

end Interp

open Rehearsal

variable {stage : Stage} {visible : Nat} {settings : RunSettings}
  {repairer : Option (Repairer World)} {session : Session World}

theorem untilFailure_report {σ : Type} {body : Interp σ Report} {answer : Report}
    {session after : Session σ} (rest : List (Step σ)) (going : session.run.stopped = false)
    (unskipped : session.run.skipping = false) (ran : body session.counted = (.ok answer, after)) :
    untilFailure (report body :: rest) session = untilFailure rest after :=
  untilFailure_ok rest going unskipped (report_ok ran)

/-- From one session to the other an item is saved, and its details are shown in the end. The run
goes on with room for more, or it is full and stopped. -/
def Takes (stage : Stage) (visible most index : Nat) (item : StageItem)
    (before after : Session World) : Prop :=
  ∃ run world, after = { before with run, world } ∧ Shows stage visible (some index) world ∧
    run.collected.map (·.id) = before.run.collected.map (·.id) ++ [item.id.getD ""] ∧
    (run.stopped = false ∧ run.collected.length < most ∨
      run.stopped = true ∧ run.collected.length = most)

section Body

variable {most index : Nat} {item : StageItem}

/-- Marking an item as done touches neither what is saved nor whether the run goes on. -/
theorem markDone_ran {σ : Type} (host : Host σ) (session : Session σ) :
    ∃ run, (untilFailure (Command.steps host [.markDone]) session).2 = { session with run } ∧
      run.collected = session.run.collected ∧ run.stopped = session.run.stopped := by
  rw [Command.steps, Command.steps, untilFailure_cons]
  split
  · exact ⟨_, rfl, rfl, rfl⟩
  · have ran : ∃ run, (Command.markDone.run host session).2 = { session with run } ∧
        run.collected = session.run.collected ∧ run.stopped = session.run.stopped := by
      show ∃ run, (report Interp.markDone session).2 = _ ∧ _
      rw [report_apply]
      simp only [Interp.markDone, Interp.bind_apply, Interp.run_apply]
      cases session.counted.run.current with
      | none => exact ⟨_, rfl, rfl, rfl⟩
      | some item =>
          refine ⟨session.run.countCommand.markProcessed item.id, rfl, ?_⟩
          obtain ⟨_, _, marked⟩ := session.run.countCommand.markProcessed_ledger item.id
          rw [marked]
          exact ⟨rfl, rfl⟩
    split
    · exact ran
    · exact ran

/-- With its details at hand the item is saved, and marked as done unless the run is full. -/
theorem saveItem_takes {text : String}
    (shows : Shows stage visible (some index) session.world)
    (bound : session.maxItems = some most) (room : session.run.collected.length < most)
    (current : session.run.current = some (stage.current item index))
    (content : session.run.content = some text) (readable : text ≠ "")
    (going : session.run.stopped = false) (unskipped : session.run.skipping = false) :
    Takes stage visible most index item session
      (untilFailure (Command.steps (host settings repairer) [.save "job", .markDone])
        session).2 := by
  obtain ⟨answer, saved, same, ran⟩ := Interp.save_ran (host settings repairer) "job"
    session.counted current content readable
  have saves := untilFailure_report (Command.steps (host settings repairer) [.markDone]) going
    unskipped ran
  obtain ⟨run, ends, collected, stopped⟩ := markDone_ran (host settings repairer)
    { session.counted with run := session.counted.run.keep session.maxItems saved }
  refine ⟨run, session.world, (congrArg Prod.snd saves).trans ends, shows, ?_, ?_⟩
  · rw [collected]
    simp [Run.keep, Session.counted, Run.countCommand, same, Stage.current]
  · rw [stopped, collected, bound]
    exact Run.keep_bound saved going room

end Body

section Body

variable {most index : Nat} {item : StageItem} (fair : stage.Fair)
  (fits : stage.Fits session.bindings) (found : stage.items[index]? = some item)
  (bound : session.maxItems = some most) (room : session.run.collected.length < most)
  (current : session.run.current = some (stage.current item index))
  (going : session.run.stopped = false) (unskipped : session.run.skipping = false)
  (tries : 1 ≤ settings.extractRetries)

include fair fits found bound room current going unskipped tries

/-- While the details of the item are shown they are read and saved. -/
theorem readItem_takes (shows : Shows stage visible (some index) session.world) :
    Takes stage visible most index item session
      (untilFailure (Command.steps (host settings repairer)
        [.extractDetails none, .save "job", .markDone]) session).2 := by
  have shows : Shows stage visible (some index) session.counted.world := shows
  obtain ⟨text, world, readable, shows, ran⟩ := @Interp.extractDetails_ran _ _ _ _ settings
    repairer shows fair fits _ _ found rfl tries
  have reads := untilFailure_report (Command.steps (host settings repairer)
    [.save "job", .markDone]) going unskipped ran
  obtain ⟨run, final, ends, taken⟩ := @saveItem_takes _ _ settings repairer
    { session.counted with run := { session.counted.run with content := some text }, world }
    _ _ item _ shows bound room current rfl readable going unskipped
  exact ⟨run, final, (congrArg Prod.snd reads).trans ends, taken⟩

/-- The details are shown and not waited for. -/
theorem awaitItem_takes (shows : Shows stage visible (some index) session.world)
    (inRange : ∃ seconds, (Span.ofMs settings.waitTimeoutMs).toSeconds = .ok seconds)
    (settles : ∃ seconds, (Span.ofMs settings.detailsSettleMs).toSeconds = .ok seconds) :
    Takes stage visible most index item session
      (untilFailure (Command.steps (host settings repairer)
        [.waitFor .details, .extractDetails none, .save "job", .markDone]) session).2 := by
  have shows : Shows stage visible (some index) session.counted.world := shows
  obtain ⟨world, ran, shows⟩ := @Interp.waitForDetails_gives _ _ _ _ settings repairer shows fair
    fits inRange _ rfl settles
  have waits := untilFailure_report (Command.steps (host settings repairer)
    [.extractDetails none, .save "job", .markDone]) going unskipped ran
  obtain ⟨run, final, ends, taken⟩ := @readItem_takes _ _ settings repairer
    { session.counted with world } _ _ _ fair fits found bound room current going unskipped tries
    shows
  exact ⟨run, final, (congrArg Prod.snd waits).trans ends, taken⟩

/-- The body for a visible item saves it, and nothing fails. -/
theorem takeItem_takes {active : Option Nat} (shows : Shows stage visible active session.world)
    (inSight : index < visible)
    (focused : session.run.focus = some (.indexed stage.listItem index))
    (inRange : ∃ seconds, (Span.ofMs settings.waitTimeoutMs).toSeconds = .ok seconds)
    (settles : ∃ seconds, (Span.ofMs settings.detailsSettleMs).toSeconds = .ok seconds) :
    Takes stage visible most index item session
      (untilFailure (Command.steps (host settings repairer)
        [.click, .waitFor .details, .extractDetails none, .save "job", .markDone])
        session).2 := by
  have shows : Shows stage visible active session.counted.world := shows
  obtain ⟨world, ran, shows⟩ := @Interp.click_gives _ _ _ _ settings repairer shows fits _ inSight
    focused
  have clicks := untilFailure_report (Command.steps (host settings repairer)
    [.waitFor .details, .extractDetails none, .save "job", .markDone]) going unskipped ran
  obtain ⟨run, final, ends, taken⟩ := @awaitItem_takes _ _ settings repairer
    { session.counted with world } _ _ _ fair fits found bound room current going unskipped tries
    shows inRange settles
  exact ⟨run, final, (congrArg Prod.snd clicks).trans ends, taken⟩

end Body

end Gleaner
