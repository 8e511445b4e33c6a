import Gleaner.Proofs.Rehearsal.Passes

/-!
# The whole list

The built-in recipe for a list of jobs saves the first items of the stage, in their order: all
that its scrolls bring into sight, up to the number asked for.
-/

set_option autoImplicit false

namespace Gleaner

open Rehearsal

/-!
## Commands of a recipe that succeed
-/

section Commands

variable {σ : Type} {host : Host σ} {command : Command} {session after : Session σ}
  {answer : Report}

theorem overdue_inTime (inTime : session.checkTime = session) :
    overdue session = (session.run.stopped, session) := by
  show (session.checkTime.run.stopped, session.checkTime) = _
  rw [inTime]

theorem Session.runAll_stopped (commands : List Command) (inTime : session.checkTime = session)
    (stopped : session.run.stopped = true) :
    Session.runAll host commands session = (none, session) := by
  cases commands with
  | nil => rfl
  | cons command rest =>
      rw [runAll, Session.bind_apply, overdue_inTime inTime, stopped]
      rfl

/-- A command that succeeds needs no repair and is followed by the rest. -/
theorem Session.runAll_ok (rest : List Command) {body : Interp σ Report}
    (is : command.run host = report body) (inTime : session.checkTime = session)
    (going : session.run.stopped = false) (ran : body session.counted = (.ok answer, after)) :
    Session.runAll host (command :: rest) session = Session.runAll host rest after := by
  have reported : command.run host session = (.ok answer, after) := by
    rw [is]
    exact report_ok ran
  have top : runTop host command session = (.ok answer, after) := by
    rw [runTop, Session.bind_apply, reported]
    rfl
  rw [runAll, Session.bind_apply, overdue_inTime inTime, going]
  simp only [Bool.false_eq_true, ↓reduceIte, Session.bind_apply, top]

theorem Session.execute_success {recipe : Recipe} {begun : Session σ}
    (begins : Session.begin host recipe.limits session = (.ok (), begun))
    (ran : Session.runAll host recipe.commands begun = (none, after))
    (inTime : after.timedOut = false) :
    ∃ result, (Session.execute host recipe session).1 = .ok result ∧ result.success = true ∧
      result.items = after.run.collected := by
  rw [execute, Session.bind_apply, begins]
  dsimp only
  rw [Session.bind_apply, ran]
  refine ⟨_, rfl, ?_, rfl⟩
  simp [inTime, RunResult.success]

end Commands

/-!
## The recipe
-/

section Recipe

variable {stage : Stage} {b : PageBindings} {most : Nat} {session : Session World}
  {settings : RunSettings} {repairer : Option (Repairer World)}

theorem Rehearsal.Stage.Fair.at (fair : stage.Fair) (url : String) :
    ({ stage with url } : Stage).Fair :=
  ⟨fair.timeline, fair.texts, fair.listItem_named, fair.details_named, fair.listItem_ne_details,
    fair.listItem_ne_body, fair.details_ne_body, fair.body, fair.named, fair.distinct,
    fair.detailed⟩

theorem Rehearsal.Stage.Fits.at (fits : stage.Fits b) (url : String) :
    ({ stage with url } : Stage).Fits b :=
  ⟨fits.listItem, fits.detailsPanel, fits.detailsContent, fits.itemId, fits.clickBehavior,
    fits.loadMoreButton, fits.nextPageButton, fits.loading, fits.pageLoaded, fits.listLoaded,
    fits.detailsLoaded⟩

/-- The session at the beginning of a run with nothing but a bound. -/
def Session.begun {σ : Type} (clock : Clock σ) (most : Nat) (session : Session σ) : Session σ :=
  { session with
    run := { startedAt := clock.time session.world }
    maxItems := some most
    deadline := none
    timedOut := false }

theorem Session.begin_untimed {σ : Type} (host : Host σ) (most : Nat) (session : Session σ) :
    Session.begin host { maxItems := some most } session =
      (.ok (), session.begun host.clock most) := rfl

/-- Opening the page, in a calm world, leads before the first item of its list. -/
theorem openPage_stands (url : String) (positive : 1 ≤ most)
    (calm : session.world.latency = [] ∧ session.world.faults = [])
    (listed : session.world.stage.visible ≤ session.world.stage.items.length) :
    ∃ after, Interp.acting ((host settings repairer).page.navigate url) (.opened url)
        (session.begun clock most).counted = (.ok (.opened url), after) ∧
      Stands { session.world.stage with url } session.bindings session.world.stage.visible most 0
        after ∧ after.run.stopped = false := by
  have shows : Shows session.world.stage session.world.stage.visible session.world.stage.active
      session.world := ⟨calm.1, calm.2, session.world.stage.scrollY, rfl⟩
  obtain ⟨world, opened, same, latency, faults⟩ :=
    World.change_calm shows "navigate_to" [.str url] ({ · with url })
  have acted : page.navigate url session.world = (.ok (), world) := opened
  refine ⟨{ (session.begun clock most).counted with world }, ?_, ?_, rfl⟩
  · simp only [Interp.acting, Interp.bind_apply, Interp.act_apply, Session.counted, Session.begun,
      host, acted, Interp.pure_apply]
  · have even : (session.begun clock most).Even most := ⟨rfl, rfl, .nil, rfl, positive⟩
    refine ⟨.inl ⟨rfl, rfl, even.distinct, rfl, positive⟩, rfl, rfl, rfl, rfl,
      ⟨session.world.stage.active, ⟨latency, faults, ?_⟩, fun none => absurd none (Nat.lt_irrefl 0)⟩,
      rfl, Nat.zero_le _, listed, .inl ⟨rfl, positive⟩⟩
    rw [same]
    exact ⟨session.world.stage.scrollY, rfl⟩

/-- A wait that is over at once leaves the run where it stands. -/
theorem Stands.awaits {visible done : Nat} {target : WaitTarget}
    (fits : stage.Fits b) (stands : Stands stage b visible most done session)
    (gives : ∀ active, Shows stage visible active session.counted.world →
      stage.Fits session.counted.bindings → Interp.Gives (Interp.waitFor (host settings repairer) target) session.counted
        (.awaited target) (Shows stage visible active)) :
    ∃ after, Interp.waitFor (host settings repairer) target session.counted =
        (.ok (.awaited target), after) ∧
      Stands stage b visible most done after ∧ after.run.stopped = session.run.stopped := by
  obtain ⟨active, shows, last⟩ := stands.counted.shows
  have fitting : stage.Fits session.counted.bindings := by
    rw [stands.counted.bindings]
    exact fits
  obtain ⟨world, waited, kept⟩ := gives active shows fitting
  refine ⟨_, waited, ?_, rfl⟩
  exact stands.counted.onward ⟨rfl, rfl, rfl, id, rfl⟩ rfl (Nat.le_refl _) stands.listed kept last

/-- The extraction loop takes what its scrolls bring into sight, and then the run is over. -/
theorem Stands.extractionLoop {first : Nat} (usable : settings.Usable) (fair : stage.Fair)
    (fits : stage.Fits b) (positive : 1 ≤ first)
    (continues : stage.Continues b (host settings repairer) first)
    (stands : Stands stage b first most 0 session) (going : session.run.stopped = false) :
    ∃ after, Session.runAll (host settings repairer) (Template.extractionLoop most) session =
        (none, after) ∧
      after.timedOut = false ∧
      after.run.collected.map (·.id) = stage.ids.take (min most
        (min stage.items.length
          (first + (settings.maxRepeatIterations - 1) * stage.reveal))) := by
  obtain ⟨answer, sight, final, ran, ended⟩ := stands.counted.passes positive continues usable fair
    fits session.counted.run.stats.scrollsPerformed 0 (settings.maxRepeatIterations - 1)
    (Nat.le_refl _) going
  have rounds := usable.rounds
  rw [Nat.sub_add_cancel rounds] at ran
  have repeated : Interp.repeatUntil (host settings repairer)
      (.any [.collected most, .noMoreItems])
      (Command.steps (host settings repairer) Template.passBody) session.counted =
        (.ok answer, final) := by
    rw [Interp.repeatUntil, Interp.bind_apply, Interp.run_apply]
    exact ran
  rw [Template.extractionLoop, Session.runAll_ok _ rfl stands.checkTime going repeated]
  cases stopped : final.run.stopped with
  | true =>
      rw [Session.runAll_stopped _ ended.checkTime stopped]
      exact ⟨final, rfl, ended.inTime, ended.saved⟩
  | false =>
      have finished : Interp.noting (fun run => { run with stopped := true }) final.counted =
          (.ok .done, { final.counted with run := { final.counted.run with stopped := true } }) := by
        simp [Interp.noting, Interp.bind_apply]
      rw [Session.runAll_ok _ rfl ended.checkTime stopped finished]
      exact ⟨_, rfl, ended.inTime, ended.saved⟩

/-- On a fair stage in a calm world the recipe for a list of jobs succeeds and saves exactly the
first items of the stage, in their order: all that its passes bring into sight, one scroll less
than there may be passes, up to the number asked for. -/
theorem jobListing_complete (id url : String) (usable : settings.Usable) (positive : 1 ≤ most)
    (calm : session.world.latency = [] ∧ session.world.faults = [])
    (fair : session.world.stage.Fair) (fits : session.world.stage.Fits session.bindings)
    (some : 1 ≤ session.world.stage.visible)
    (listed : session.world.stage.visible ≤ session.world.stage.items.length)
    (continues : ({ session.world.stage with url } : Stage).Continues session.bindings
      (host settings repairer) session.world.stage.visible) :
    ∃ result, (Session.execute (host settings repairer) (Template.jobListing id url most)
        session).1 = .ok result ∧
      result.success = true ∧
      result.items.map (·.id) = session.world.stage.ids.take
        (min session.world.stage.items.length (min most (session.world.stage.visible +
          (settings.maxRepeatIterations - 1) * session.world.stage.reveal))) := by
  have fair := fair.at url
  have fits := fits.at url
  obtain ⟨opened, ran, stands, going⟩ := @openPage_stands most session settings repairer url positive
    calm listed
  obtain ⟨loaded, loads, stands', same⟩ := @Stands.awaits _ _ _ _ settings repairer _ _ .page fits
    stands fun _ shows fits => Interp.waitForPage_gives shows fair fits usable.waits
  rw [going] at same
  obtain ⟨shown, lists, stands'', same'⟩ := @Stands.awaits _ _ _ _ settings repairer _ _ .list fits
    stands' fun _ shows fits => Interp.waitForList_gives shows fair fits usable.waits some
  rw [same] at same'
  obtain ⟨final, looped, inTime, saved⟩ := stands''.extractionLoop usable fair fits some continues
    same'
  have all : Session.runAll (host settings repairer)
      (Template.jobListing id url most).commands (session.begun clock most) = (none, final) := by
    rw [Template.jobListing, Session.runAll_ok _ rfl rfl rfl ran,
      Session.runAll_ok _ rfl stands.checkTime going loads,
      Session.runAll_ok _ rfl stands'.checkTime same lists]
    exact looped
  obtain ⟨result, ended, success, items⟩ := Session.execute_success
    (Session.begin_untimed (host settings repairer) most session) all inTime
  refine ⟨result, ended, success, ?_⟩
  rw [items, saved, Nat.min_left_comm]
  rfl

end Recipe

/-!
## Three jobs
-/

namespace Rehearsal

def StageItem.job (id : String) : StageItem :=
  { id := some id, text := id, details := ["Details of " ++ id] }

/-- Three jobs, of which one is in sight. -/
def threeJobs : Stage :=
  { items := [.job "a", .job "b", .job "c"], visible := 1, reveal := 1 }

/-- The three jobs on a page that shows no body. -/
def bodiless : Stage :=
  { threeJobs with selectors := [("body", 0)] }

/-- Bindings for the three jobs. -/
def jobBindings : PageBindings :=
  { listItem := threeJobs.listItem
    detailsPanel := some threeJobs.details
    detailsContent := [threeJobs.details]
    itemId := some { source := .data }
    states := { noMoreItems := some (.present ".no-results") }
    updatedAt := 0 }

/-- Whether two of the jobs can be had from a stage, and which ones. -/
def twoJobs (settings : RunSettings) (stage : Stage) : Option (Bool × List String) :=
  let session := Session.start clock jobBindings { stage }
  let recipe := Template.jobListing "recipe" "https://jobs.example.com" 2
  (Session.execute (host settings none) recipe session).1.toOption.map fun result =>
    (result.success, result.items.map (·.id))

end Rehearsal

/-- A wait of more seconds than a floating number can tell. -/
def RunSettings.endlessWait : RunSettings :=
  { waitTimeoutMs := Nat.pow 10 400 }

/-- A pause of more seconds than a floating number can tell. -/
def RunSettings.endlessPause : RunSettings :=
  { detailsSettleMs := Nat.pow 10 400 }

/-- Without a body the page never counts as loaded, and times that no clock can tell are faults. -/
theorem jobListing_incomplete :
    twoJobs {} bodiless = some (false, []) ∧
      twoJobs .endlessWait threeJobs = some (false, []) ∧
      twoJobs .endlessPause threeJobs = some (true, []) := by
  refine ⟨?_, ?_, ?_⟩
  · decide +kernel
  · decide +kernel
  · decide +kernel

theorem Rehearsal.threeJobs_fair : threeJobs.Fair := by
  refine ⟨rfl, rfl, by decide, by decide, by decide, by decide, by decide, by decide, ?_, by decide,
    ?_⟩
  · simp [threeJobs, StageItem.job]
  · simp [threeJobs, StageItem.job]
    decide

theorem Rehearsal.threeJobs_fits : threeJobs.Fits jobBindings :=
  ⟨rfl, rfl, rfl, ⟨_, rfl, rfl⟩, by decide, rfl, rfl, rfl, .inl rfl, .inl rfl, .inl rfl⟩

theorem Rehearsal.threeJobs_continues (url : String) (settings : RunSettings) :
    ({ threeJobs with url } : Stage).Continues jobBindings (host settings none) 1 := by
  intro condition named shown session _ _ _ _ shows
  cases named
  obtain ⟨after, looked, _, kept⟩ := World.look_calm shows "selector_exists" [.str ".no-results"]
    fun world => decide (0 < world.stage.count world.us ".no-results")
  have absent : after.stage.count after.us ".no-results" = 0 := by
    rw [kept.count (threeJobs_fair.at url)]
    rfl
  have answer : (page.isPresent ".no-results" session.world).1 =
      .ok (decide (0 < after.stage.count after.us ".no-results")) := congrArg Prod.fst looked
  show (Interp.act (page.isPresent ".no-results") session).1 = .ok false
  rw [Interp.act_apply, answer, absent]
  rfl

theorem jobListing_complete_on_threeJobs :
    ∃ result, (Session.execute (host {} none)
        (Template.jobListing "recipe" "https://jobs.example.com" 2)
        (Session.start clock jobBindings { stage := threeJobs })).1 = .ok result ∧
      result.success = true ∧ result.items.map (·.id) = ["a", "b"] :=
  @jobListing_complete 2 (Session.start clock jobBindings { stage := threeJobs }) {} none "recipe"
    "https://jobs.example.com" ⟨by decide, by decide, by decide, ⟨_, rfl⟩, ⟨_, rfl⟩⟩ (by decide)
    ⟨rfl, rfl⟩ threeJobs_fair threeJobs_fits (by decide) (by decide) (threeJobs_continues _ _)

end Gleaner
