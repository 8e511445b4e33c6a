import Gleaner.Proofs.Rehearsal.Complete
import Gleaner.Proofs.Run.Stop

/-!
# What is saved is in the result

Only a save adds to what a run has collected, and nothing takes away from it. The chronicle of
a run therefore tells all that was saved, and the result has exactly that, whatever failed on
the way. The one fault that no command answers for is that of a patch, and a patch has only one
kind of fault.
-/

set_option autoImplicit false

namespace Gleaner

variable {σ : Type}

/-- The item that a save adds: the current one with its details, if there is both. -/
def Session.savable? (clock : Clock σ) (label : String) (session : Session σ) : Option Item := do
  let current ← session.run.current
  let content ← session.run.content
  if content = "" then none
  else return { id := current.id, content, savedAt := clock.time session.world, label }

/-- The item that is saved by the command that starts at a moment. -/
def Moment.saves? (clock : Clock σ) (moment : Moment σ) : Option Item :=
  match moment.starting with
  | some (.save label) => moment.session.savable? clock label
  | _ => none

/-- The only times that the clock cannot tell are those out of range. -/
def Clock.Reckons (clock : Clock σ) : Prop :=
  ∀ timeoutMs world seconds, (Span.ofMs timeoutMs).toSeconds = .ok seconds →
    ∃ deadline, clock.deadline timeoutMs world = .ok deadline

/-!
## One command
-/

/-- A deed that is no save leaves what is saved. -/
theorem Deed.collected_of_ne_save {most : Option Nat} {command : Command} {outcome : Outcome}
    {before after : Run} (deed : Deed most command outcome before after)
    (other : ∀ label, command ≠ .save label) : after.collected = before.collected := by
  cases deed with
  | saved => exact absurd rfl (other _)
  | marked current found =>
      obtain ⟨_, _, marked⟩ := before.markProcessed_ledger current.id
      rw [marked]
  | _ => rfl

theorem Interp.save_collected (host : Host σ) (label : String) (session : Session σ) :
    (Interp.save host label session).2.run.collected =
      session.run.collected ++ (session.savable? host.clock label).toList := by
  simp only [Interp.save, bind_apply, get_apply, Session.savable?]
  rcases session.run.current with _ | current
  · simp
  · rcases session.run.content with _ | content
    · simp
    · by_cases empty : content = ""
      · simp [empty]
      · simp [empty, bind_apply]

/-- A plain command adds the item that its start tells, and no other. -/
theorem Command.run_collected (host : Host σ) {command : Command}
    (plain : command.isPlain = true) (session : Session σ) :
    (command.run host session).2.run.collected = session.run.collected ++
      (Moment.saves? host.clock { session, starting := some command }).toList := by
  by_cases save : ∃ label, command = .save label
  · obtain ⟨label, rfl⟩ := save
    rw [Command.run, report_apply]
    exact Interp.save_collected host label session.counted
  · have other (label : String) : command ≠ .save label := fun same => save ⟨label, same⟩
    obtain ⟨run, world, reached, deed⟩ := command.run_deed host plain session
    have nothing : Moment.saves? host.clock { session, starting := some command } = none := by
      unfold Moment.saves?
      split
      next label starts => exact absurd (Option.some.inj starts) (other label)
      next => rfl
    rw [reached, nothing, Option.toList_none, List.append_nil]
    exact deed.collected_of_ne_save other

/-!
## Journeys
-/

/-- What is saved at the end of a journey is what was saved before it and what the moments on
the way tell, in their order. -/
theorem Journey.collected {host : Host σ} {session final : Session σ} {news : List (Moment σ)}
    (journey : Journey host session news final) :
    final.run.collected = session.run.collected ++ news.filterMap (·.saves? host.clock) := by
  induction journey with
  | done => simp
  | moved move _ ih =>
      rw [ih, move.collected.1]
      rfl
  | @ran session _ _ command plain _ _ ih =>
      rw [ih, command.run_collected host plain, List.append_assoc, List.filterMap_cons,
        List.filterMap_cons]
      cases Moment.saves? host.clock { session, starting := some command } <;> rfl
  | opened command outer _ _ ih =>
      have nothing (before : Session σ) :
          Moment.saves? host.clock { session := before, starting := some command } = none := by
        cases command <;> first | rfl | cases outer
      rw [ih, List.filterMap_cons, nothing]
      rfl

/-!
## Whole runs
-/

namespace Session

/-- A patch has no other fault than that the record it makes is malformed. -/
theorem patch_malformed {clock : Clock σ} {changes : Fields} {session : Session σ} {fault : Fault}
    (refused : session.patch clock changes = .error fault) :
    ∃ problems, fault = .malformed "PageBindings" problems := by
  rw [patch_eq_map] at refused
  cases merged : session.bindings.merge (clock.time session.world) changes with
  | ok bindings =>
      rw [merged] at refused
      cases refused
  | error other =>
      rw [merged] at refused
      cases refused
      simp only [PageBindings.merge, PageBindings.ofFieldsOrFault, Checked.toExcept, id] at merged
      generalize PageBindings.ofFields _ _ = made at merged
      rcases made with problems | record
      · cases merged
        exact ⟨problems, rfl⟩
      · cases merged

variable {host : Host σ} {limits : RunLimits} {recipe : Recipe}

theorem begin_ok (reckons : host.clock.Reckons)
    (inRange : ∀ timeoutMs, limits.timeoutMs = some timeoutMs →
      ∃ seconds, (Span.ofMs timeoutMs).toSeconds = .ok seconds) (session : Session σ) :
    (begin host limits session).1 = .ok () := by
  rw [begin_verdict]
  cases limited : limits.timeoutMs with
  | none => rfl
  | some timeoutMs =>
      obtain ⟨seconds, told⟩ := inRange timeoutMs limited
      obtain ⟨deadline, reckoned⟩ := reckons timeoutMs session.world seconds told
      dsimp only
      rw [reckoned]
      rfl

/-- A run whose time limit is in range always has a result: it is a success or tells an error,
and its items are all that was saved on the way, in order, whatever the page, the repairer and
the patches did. Patches that are refused are refused as malformed, never otherwise. -/
theorem execute_keeps_saved (reckons : host.clock.Reckons)
    (inRange : ∀ timeoutMs, recipe.limits.timeoutMs = some timeoutMs →
      ∃ seconds, (Span.ofMs timeoutMs).toSeconds = .ok seconds) (session : Session σ) :
    (∃ result final moments,
      execute host recipe session = (.ok result, final) ∧
      Telling.execute host recipe (session, []) = (.ok result, final, moments) ∧
      (result.success = true ↔ result.error = none) ∧
      result.items = moments.filterMap (·.saves? host.clock)) ∧
    ∀ (changes : Fields) (patched : Session σ) (fault : Fault),
      patched.patch host.clock changes = .error fault →
      ∃ problems, fault = .malformed "PageBindings" problems := by
  obtain ⟨result, ended⟩ := execute_ok_of_begin (begin_ok reckons inRange session)
  obtain ⟨news, told, journey⟩ := @Tells.execute _ host recipe session
  rw [ended] at told
  refine ⟨⟨result, _, _, Prod.ext ended rfl, told, Option.isNone_iff_eq_none, ?_⟩,
    fun _ _ _ => patch_malformed⟩
  rw [(execute_result host recipe session ended).1, journey.collected,
    (begin_fresh host session recipe.limits).1]
  rfl

end Session

/-!
## A run that fails after a save
-/

namespace Rehearsal

theorem clock_reckons : clock.Reckons := by
  intro timeoutMs world seconds told
  refine ⟨fun later => world.elapsed + seconds ≤ later.elapsed, ?_⟩
  show World.deadline timeoutMs world = _
  unfold World.deadline
  rw [told]
  rfl

/-- A recipe that saves the first job and then goes where there is nothing. -/
def lostRecipe : Recipe :=
  { id := "recipe"
    commands := [.goToItem .first, .extractDetails none, .save "job", .goTo "nowhere"]
    limits := { timeoutMs := some 60000 } }

end Rehearsal

open Rehearsal in
theorem execute_keeps_saved_on_lostRecipe :
    ∃ result final moments,
      Telling.execute (host {} none) lostRecipe
        (Session.start clock jobBindings { stage := threeJobs }, []) =
          (.ok result, final, moments) ∧
      result.success = false ∧ result.items = moments.filterMap (·.saves? clock) ∧
      result.items.map (·.id) = ["a"] := by
  obtain ⟨⟨result, final, moments, ended, told, _, items⟩, _⟩ :=
    @Session.execute_keeps_saved _ (host {} none) lostRecipe clock_reckons
      (fun timeoutMs limited => ⟨_, by cases limited; rfl⟩)
      (Session.start clock jobBindings { stage := threeJobs })
  have ran : (Session.execute (host {} none) lostRecipe
      (Session.start clock jobBindings { stage := threeJobs })).1.toOption.map
        (fun result => (result.success, result.items.map (·.id))) = some (false, ["a"]) := by
    decide +kernel
  rw [ended] at ran
  obtain ⟨failed, saved⟩ := Prod.ext_iff.mp (Option.some.inj ran)
  exact ⟨result, final, moments, told, failed, items, saved⟩

end Gleaner
