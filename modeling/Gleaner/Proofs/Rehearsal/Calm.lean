import Gleaner.Proofs.Run.Flow
import Gleaner.Rehearsal.World

/-!
# Calm worlds

What the operations of a rehearsed page answer when no call is slow and none fails: a stage
that is shown keeps being shown, and what a run sees of it follows from how many of its items
are visible and which of them is active.
-/

set_option autoImplicit false

namespace Gleaner.Rehearsal

/-- A stage that a run can be rehearsed on: it follows no timetable, its three selectors are told
apart, and every item has an id of its own and details to read. -/
structure Stage.Fair (stage : Stage) : Prop where
  timeline : stage.timeline = []
  texts : stage.texts = []
  listItem_named : Text.isBlankText stage.listItem = false
  details_named : Text.isBlankText stage.details = false
  listItem_ne_details : stage.listItem ≠ stage.details
  listItem_ne_body : stage.listItem ≠ "body"
  details_ne_body : stage.details ≠ "body"
  body : 0 < (Entries.find? "body" stage.selectors).getD 1
  named : ∀ item ∈ stage.items, ∃ id, item.id = some id ∧ id ≠ ""
  distinct : (stage.items.map (·.id)).Nodup
  detailed : ∀ item ∈ stage.items, ∃ text ∈ item.details, Text.isBlankText text = false

/-- A record of bindings that finds its way on a stage with nothing but its list and details. -/
structure Stage.Fits (stage : Stage) (b : PageBindings) : Prop where
  listItem : b.listItem = stage.listItem
  detailsPanel : b.detailsPanel = some stage.details
  detailsContent : b.detailsContent = [stage.details]
  itemId : ∃ rule, b.itemId = some rule ∧ rule.source = .data
  clickBehavior : b.clickBehavior ≠ some .inPlace
  loadMoreButton : b.loadMoreButton = none
  nextPageButton : b.nextPageButton = none
  loading : b.states.loading = none
  pageLoaded : b.states.pageLoaded = none ∨ b.states.pageLoaded = some (.present "body")
  listLoaded :
    b.states.listLoaded = none ∨ b.states.listLoaded = some (.present stage.listItem)
  detailsLoaded :
    b.states.detailsLoaded = none ∨ b.states.detailsLoaded = some (.present stage.details)

/-- A calm world that shows a stage with so many visible items and the details of an item. -/
structure Shows (stage : Stage) (visible : Nat) (active : Option Nat) (world : World) : Prop where
  latency : world.latency = []
  faults : world.faults = []
  shown : ∃ scrollY, world.stage = { stage with scrollY, visible, active }

def host (settings : RunSettings) (repairer : Option (Repairer World)) : Host World :=
  { page, clock, settings, repairer }

variable {stage : Stage} {visible : Nat} {active : Option Nat} {world : World}

/-!
## Operations of the page
-/

theorem World.call_calm (shows : Shows stage visible active world) (method : String)
    (args : List Json) :
    ∃ after, World.call method args world = (.ok (), after) ∧ after.stage = world.stage ∧
      after.latency = [] ∧ after.faults = [] := by
  refine ⟨{ world.record method args with us := world.us + 0 }, ?_, rfl, shows.latency,
    shows.faults⟩
  simp only [World.call, World.record, shows.latency, shows.faults, Entries.find?,
    World.takeFault]
  rfl

theorem World.look_calm {α : Type} (shows : Shows stage visible active world) (method : String)
    (args : List Json) (f : World → α) :
    ∃ after, World.look method args f world = (.ok (f after), after) ∧
      after.stage = world.stage ∧ Shows stage visible active after := by
  obtain ⟨after, called, same, latency, faults⟩ := World.call_calm shows method args
  refine ⟨after, ?_, same, latency, faults, same ▸ shows.shown⟩
  simp only [World.look, bind, ExceptT.bind, ExceptT.mk, StateT.bind, called]
  rfl

theorem World.change_calm (shows : Shows stage visible active world) (method : String)
    (args : List Json) (f : Stage → Stage) :
    ∃ after, World.change method args f world = (.ok (), after) ∧
      after.stage = f world.stage ∧ after.latency = [] ∧ after.faults = [] := by
  obtain ⟨after, called, same, latency, faults⟩ := World.call_calm shows method args
  refine ⟨{ after with stage := f after.stage }, ?_, by rw [same], latency, faults⟩
  simp only [World.change, bind, ExceptT.bind, ExceptT.mk, StateT.bind, called]
  rfl

/-!
## What a stage shows
-/

namespace Shows

theorem count (shows : Shows stage visible active world) (fair : stage.Fair) (us : Int)
    (selector : String) :
    world.stage.count us selector =
      if selector = stage.listItem then (visible : Int)
      else if selector = stage.details then if active.isSome then 1 else 0
      else (Entries.find? selector stage.selectors).getD (if selector = "body" then 1 else 0) := by
  obtain ⟨scrollY, shown⟩ := shows.shown
  simp [Stage.count, shown, fair.timeline]

theorem count_body (shows : Shows stage visible active world) (fair : stage.Fair) (us : Int) :
    0 < world.stage.count us "body" := by
  rw [shows.count fair, if_neg fair.listItem_ne_body.symm, if_neg fair.details_ne_body.symm]
  exact fair.body

theorem count_listItem (shows : Shows stage visible active world) (fair : stage.Fair)
    (us : Int) : world.stage.count us stage.listItem = visible := by
  rw [shows.count fair, if_pos rfl]

theorem count_details {index : Nat} (shows : Shows stage visible (some index) world)
    (fair : stage.Fair) (us : Int) : world.stage.count us stage.details = 1 := by
  rw [shows.count fair, if_neg fair.listItem_ne_details.symm, if_pos rfl]
  rfl

end Shows

end Gleaner.Rehearsal

namespace Gleaner.Interp

open Rehearsal

variable {α β : Type} {session : Session World} {stage : Stage} {visible : Nat}
  {active : Option Nat}

/-- The program gives a value and changes nothing but the world, which is then as said. -/
def Gives (prog : Interp World α) (session : Session World) (value : α) (Q : World → Prop) :
    Prop :=
  ∃ world, prog session = (.ok value, { session with world }) ∧ Q world

namespace Gives

theorem pure {Q : World → Prop} (value : α) (holds : Q session.world) :
    Gives (Pure.pure value) session value Q :=
  ⟨session.world, rfl, holds⟩

theorem bind {first : Interp World α} {next : α → Interp World β} {value : α} {result : β}
    {Q R : World → Prop} (gives : Gives first session value Q)
    (nextGives : ∀ world, Q world → Gives (next value) { session with world } result R) :
    Gives (first >>= next) session result R := by
  obtain ⟨middle, ran, holds⟩ := gives
  obtain ⟨world, final, ends⟩ := nextGives middle holds
  refine ⟨world, ?_, ends⟩
  rw [bind_apply, ran]
  exact final

theorem seen {first : Interp World α} {next : α → Interp World β} {value : α} {result : β}
    {R : World → Prop} (saw : first session = (.ok value, session))
    (nextGives : Gives (next value) session result R) :
    Gives (first >>= next) session result R := by
  obtain ⟨world, final, ends⟩ := nextGives
  refine ⟨world, ?_, ends⟩
  rw [bind_apply, saw]
  exact final

theorem bindings {next : PageBindings → Interp World β} {result : β} {R : World → Prop}
    (nextGives : Gives (next session.bindings) session result R) :
    Gives (Interp.bindings >>= next) session result R :=
  seen (bindings_apply session) nextGives

theorem run {next : Run → Interp World β} {result : β} {R : World → Prop}
    (nextGives : Gives (next session.run) session result R) :
    Gives (Interp.run >>= next) session result R :=
  seen (run_apply session) nextGives

theorem liftOk {result : Except Fault α} {next : α → Interp World β} {value : α} {final : β}
    {R : World → Prop} (ok : result = .ok value) (nextGives : Gives (next value) session final R) :
    Gives (liftM result >>= next) session final R :=
  seen (by rw [liftExcept_apply, ok]) nextGives

theorem act {action : Action World α} {value : α} {Q : World → Prop}
    (answers : ∃ after, action session.world = (.ok value, after) ∧ Q after) :
    Gives (Interp.act action) session value Q := by
  obtain ⟨after, acted, holds⟩ := answers
  exact ⟨after, by rw [act_apply, acted], holds⟩

end Gives

/-!
## Looking at a calm world
-/

variable {settings : RunSettings} {repairer : Option (Repairer World)}

section Looking

variable (shows : Shows stage visible active session.world)

include shows

theorem pause_gives {span : Span} {us : Int} (length : World.pauseLength span = .ok us) :
    Gives (act (World.pause span)) session () (Shows stage visible active) := by
  refine .act ⟨{ session.world.record "sleep" [.int us] with us := session.world.us + us }, ?_,
    shows.latency, shows.faults, shows.shown⟩
  unfold World.pause
  rw [length]
  rfl

theorem isPresent_gives {selector : String}
    (present : ∀ us (world : World), Shows stage visible active world →
      0 < world.stage.count us selector) :
    Gives (act (page.isPresent selector)) session true (Shows stage visible active) := by
  obtain ⟨after, looked, same, kept⟩ := World.look_calm shows "selector_exists" [.str selector]
    fun world => decide (0 < world.stage.count world.us selector)
  refine .act ⟨after, ?_, kept⟩
  refine looked.trans ?_
  rw [decide_eq_true (present _ _ kept)]

theorem countItems_gives (fair : stage.Fair) (bound : session.bindings.listItem = stage.listItem) :
    Gives (countItems (host settings repairer)) session visible (Shows stage visible active) := by
  refine .bindings ?_
  rw [bound, fair.listItem_named]
  obtain ⟨after, looked, same, kept⟩ := World.look_calm shows "count_selector"
    [.str stage.listItem] fun world => world.stage.count world.us stage.listItem
  refine .act ⟨after, ?_, kept⟩
  refine looked.trans ?_
  rw [kept.count_listItem fair]

theorem waitUntil_gives {selector : String}
    (present : ∀ us (world : World), Shows stage visible active world →
      0 < world.stage.count us selector)
    (inRange : ∃ seconds, (Span.ofMs settings.waitTimeoutMs).toSeconds = .ok seconds) :
    Gives (waitUntil (host settings repairer) (.present selector)) session ()
      (Shows stage visible active) := by
  obtain ⟨seconds, inRange⟩ := inRange
  have deadline : World.deadline settings.waitTimeoutMs session.world =
      .ok fun later => session.world.elapsed + seconds ≤ later.elapsed := by
    unfold World.deadline
    rw [inRange]
    rfl
  have polled : Gives (poll (host settings repairer) (holds (host settings repairer)
      (.present selector)) settings.waitTimeoutMs) session true (Shows stage visible active) := by
    obtain ⟨world, looked, kept⟩ := isPresent_gives shows present
    exact ⟨world, poll_apply_of_check (host settings repairer) deadline looked, kept⟩
  refine polled.bind fun world kept => ?_
  exact .pure () kept

variable (fair : stage.Fair) (fits : stage.Fits session.bindings)
  (inRange : ∃ seconds, (Span.ofMs settings.waitTimeoutMs).toSeconds = .ok seconds)

include fair fits inRange

theorem waitForPage_gives :
    Gives (waitFor (host settings repairer) .page) session (.awaited .page)
      (Shows stage visible active) := by
  have loaded : session.bindings.states.pageLoaded.getD (.present "body") = .present "body" := by
    rcases fits.pageLoaded with unset | set
    · rw [unset]
      rfl
    · rw [set]
      rfl
  refine .bindings ?_
  dsimp only
  rw [loaded]
  refine (waitUntil_gives shows (fun us world shows => shows.count_body fair us) inRange).bind ?_
  exact fun world kept => .pure _ kept

theorem waitForList_gives (some : 1 ≤ visible) :
    Gives (waitFor (host settings repairer) .list) session (.awaited .list)
      (Shows stage visible active) := by
  have present (us : Int) (world : World) (shows : Shows stage visible active world) :
      0 < world.stage.count us stage.listItem := by
    rw [shows.count_listItem fair]
    omega
  have waited : Gives (do
      waitUntil (host settings repairer) (.present stage.listItem)
      return Report.awaited .list) session (.awaited .list) (Shows stage visible active) :=
    (waitUntil_gives shows present inRange).bind fun world kept => .pure _ kept
  refine .bindings ?_
  dsimp only
  rcases fits.listLoaded with unset | set
  · rw [unset]
    refine .liftOk ?_ waited
    unfold PageBindings.itemSelector
    rw [fits.listItem, fair.listItem_named]
    rfl
  · rw [set]
    exact waited

theorem waitForDetails_gives {index : Nat} (active_eq : active = some index)
    (settles : ∃ seconds, (Span.ofMs settings.detailsSettleMs).toSeconds = .ok seconds) :
    Gives (waitFor (host settings repairer) .details) session (.awaited .details)
      (Shows stage visible active) := by
  subst active_eq
  obtain ⟨seconds, settles⟩ := settles
  have length : World.pauseLength (Span.ofMs settings.detailsSettleMs) =
      .ok (min (settings.detailsSettleMs * 1000) 1000000000000000) := by
    unfold World.pauseLength
    rw [settles]
    rfl
  have panel : session.bindings.states.detailsLoaded.getD (.present stage.details) =
      .present stage.details := by
    rcases fits.detailsLoaded with unset | set
    · rw [unset]
      rfl
    · rw [set]
      rfl
  have named : stage.details ≠ "" := by
    intro empty
    have blank := fair.details_named
    rw [empty] at blank
    cases blank
  have present (us : Int) (world : World) (shows : Shows stage visible (some index) world) :
      0 < world.stage.count us stage.details := by
    rw [shows.count_details fair]
    exact Int.one_pos
  refine .bindings ?_
  dsimp only
  unfold waitForDetails
  rw [if_neg fits.clickBehavior, fits.loading, fits.detailsPanel]
  dsimp only
  rw [if_neg named, panel]
  refine (waitUntil_gives shows present inRange).bind fun world kept => ?_
  exact (pause_gives kept length).bind fun _ kept => .pure _ kept

end Looking

end Gleaner.Interp
