import Gleaner.Proofs.Harvest.Beside
import Gleaner.Rehearsal.Script

/-!
# The attempts of a harvest

A harvest is a loop of attempts, and what it reports is gathered from them: `tries` are the
attempts alone, and what the loop returns is put together from these, one after the other. Another
attempt follows only where the last one invites it.
-/

set_option autoImplicit false

namespace Gleaner

variable {σ : Type}

/-- What becomes of an attempt: there are no bindings for it, or the recipe runs with bindings
and leaves a version of them. -/
inductive Attempt where
  | refused (error : String)
  | ran (acquired : Acquired) (result : RunResult) (record : PageBindings)

namespace Attempt

def items : Attempt → List Item
  | refused _ => []
  | ran _ result _ => result.items

def stats : Attempt → RunStats
  | refused _ => {}
  | ran _ result _ => result.stats

def error : Attempt → Option String
  | refused error => some error
  | ran _ result _ => result.error

/-- Another attempt with fresh bindings makes sense: this one had none, or it failed for want of
better ones and has nothing to show. -/
def invites : Attempt → Bool
  | refused _ => true
  | ran _ result _ => result.items.isEmpty && result.error.any isBindingError

theorem invites_iff {attempt : Attempt} :
    attempt.invites = true ↔ (∃ error, attempt = .refused error) ∨
      ∃ acquired result record error, attempt = .ran acquired result record ∧ result.items = [] ∧
        result.error = some error ∧ isBindingError error = true := by
  cases attempt with
  | refused error => exact ⟨fun _ => .inl ⟨error, rfl⟩, fun _ => rfl⟩
  | ran acquired result record =>
      rw [invites, Bool.and_eq_true_iff, List.isEmpty_iff, Option.any_eq_true]
      constructor
      · rintro ⟨none, error, failed, shaped⟩
        exact .inr ⟨acquired, result, record, error, rfl, none, failed, shaped⟩
      · rintro (⟨_, same⟩ | ⟨_, _, _, error, same, none, failed, shaped⟩)
        · cases same
        · cases same
          exact ⟨none, error, failed, shaped⟩

theorem items_of_invites {attempt : Attempt} (invited : attempt.invites = true) :
    attempt.items = [] := by
  obtain ⟨error, rfl⟩ | ⟨acquired, result, record, error, rfl, none, -, -⟩ :=
    invites_iff.mp invited
  · rfl
  · exact none

end Attempt

/-- The report of a harvest after one more attempt. -/
def Harvest.tally (harvest : Harvest) : Attempt → Harvest
  | .refused error =>
      { harvest with
        error := some error
        stats := { harvest.stats with attempts := harvest.stats.attempts + 1 } }
  | .ran _ result record =>
      { harvest with
        success := result.success
        items := result.items
        bindings := some record
        error := result.error
        stats :=
          { attempts := harvest.stats.attempts + 1
            run := harvest.stats.run.add result.stats } }

namespace Harvester

variable (harvester : Harvester σ)

/-- An attempt up to the end of its run. -/
def attempt (recipe : Recipe) (number : Nat) (fresh : Bool) : Action σ Attempt := do
  harvester.progress s!"Attempt {number}/{maxAttempts}: acquiring bindings"
  match ← harvester.acquire recipe fresh with
  | .error reason => return .refused (if reason = "" then "Binding discovery failed" else reason)
  | .ok acquired =>
      let b := acquired.bindings
      let title := if recipe.name = "" then recipe.id else recipe.name
      harvester.progress s!"Executing '{title}' with bindings {b.id} v{b.version}"
      let (result, record) ← harvester.runWith recipe b
      return .ran acquired result record

/-- What follows an attempt: it is told about, and bindings that worked are saved. -/
def conclude (again : Bool) : Attempt → Action σ Unit
  | .refused error => harvester.progress ("Binding discovery failed: " ++ error)
  | .ran acquired result record =>
      match result.error with
      | none => do
          harvester.progress s!"Collected {result.items.length} items"
          harvester.saveBindings record acquired.expected
      | some error => do
          harvester.progress ("Run failed: " ++ error)
          if again then harvester.progress "Failure looks binding-related, rediscovering"

/-- The attempts of a harvest, so many more at most. -/
def tries (recipe : Recipe) : (more : Nat) → (fresh : Bool) → Action σ (List Attempt)
  | 0, _ => return []
  | more + 1, fresh => do
      let attempt ← harvester.attempt recipe (maxAttempts - more) fresh
      let again := more ≠ 0 && attempt.invites
      harvester.conclude again attempt
      if again then return attempt :: (← tries recipe more true)
      else return [attempt]

/-- Attempts that are made begin with one, and go on only if it invites others. -/
theorem tries_ok {recipe : Recipe} {more : Nat} {fresh : Bool} {here after : σ}
    {tried : List Attempt} (ran : harvester.tries recipe (more + 1) fresh here = (.ok tried, after)) :
    ∃ attempt made told,
      harvester.attempt recipe (maxAttempts - more) fresh here = (.ok attempt, made) ∧
      harvester.conclude (more ≠ 0 && attempt.invites) attempt made = (.ok (), told) ∧
      (tried = [attempt] ∧ after = told ∨
        more ≠ 0 ∧ attempt.invites = true ∧ ∃ rest, tried = attempt :: rest ∧
          harvester.tries recipe more true told = (.ok rest, after)) := by
  obtain ⟨attempt, made, attempted, ran⟩ := Action.bind_ok ran
  obtain ⟨_, told, concluded, ran⟩ := Action.bind_ok ran
  refine ⟨attempt, made, told, attempted, concluded, ?_⟩
  split at ran
  next again =>
    obtain ⟨rest, final, further, ran⟩ := Action.bind_ok ran
    cases ran
    obtain ⟨more, invited⟩ := Bool.and_eq_true_iff.mp again
    exact .inr ⟨of_decide_eq_true more, invited, rest, rfl, further⟩
  next =>
    cases ran
    exact .inl ⟨rfl, rfl⟩

/-- One round of the loop. -/
theorem attempts_succ (recipe : Recipe) {more : Nat} (fresh : Bool) {harvest : Harvest}
    (counted : harvest.stats.attempts + (more + 1) = maxAttempts) :
    harvester.attempts recipe (more + 1) fresh harvest = do
      let attempt ← harvester.attempt recipe (maxAttempts - more) fresh
      let again := more ≠ 0 && attempt.invites
      harvester.conclude again attempt
      if again then harvester.attempts recipe more true (harvest.tally attempt)
      else return harvest.tally attempt := by
  have number : maxAttempts - more = harvest.stats.attempts + 1 := by omega
  rw [attempts, attempt]
  simp only [bind_assoc]
  refine bind_congr fun _ => bind_congr fun answer => ?_
  cases answer with
  | error reason =>
      simp only [pure_bind, Attempt.invites, conclude]
      refine bind_congr fun _ => ?_
      cases more with
      | zero => simp [attempts, Harvest.tally, number]
      | succ more => simp [Harvest.tally, number]
  | ok acquired =>
      simp only [bind_assoc, pure_bind]
      refine bind_congr fun _ => bind_congr fun ran => ?_
      obtain ⟨result, record⟩ := ran
      cases failed : result.error with
      | none => simp [conclude, failed, Attempt.invites, Harvest.tally, number]
      | some error =>
          by_cases again : more ≠ 0 ∧ result.items = [] ∧ isBindingError error = true
          · simp [conclude, failed, Attempt.invites, Harvest.tally, number, again]
          · simp [conclude, failed, Attempt.invites, Harvest.tally, number, again, and_assoc]

/-- What the loop returns is put together from the attempts. -/
theorem attempts_eq_tries (recipe : Recipe) (more : Nat) (fresh : Bool) {harvest : Harvest}
    (counted : harvest.stats.attempts + more = maxAttempts) :
    harvester.attempts recipe more fresh harvest = do
      return (← harvester.tries recipe more fresh).foldl Harvest.tally harvest := by
  induction more generalizing fresh harvest with
  | zero => rw [attempts, tries, pure_bind]; rfl
  | succ more ih =>
      rw [attempts_succ harvester recipe fresh counted, tries]
      simp only [bind_assoc]
      refine bind_congr fun attempt => bind_congr fun _ => ?_
      have counted : (harvest.tally attempt).stats.attempts + more = maxAttempts := by
        cases attempt <;> simp only [Harvest.tally] <;> omega
      split
      · rw [ih true counted]
        simp
      · simp

end Harvester

/-- A harvester that works on a stage and asks a model with prepared answers. -/
def Rehearsal.harvester : Harvester Rehearsal.World :=
  { page := Rehearsal.page
    clock := Rehearsal.clock
    advisor := Rehearsal.advisor { minSnapshotChars := 0 } none {}
    store := Rehearsal.store
    settings := { bindings := { minSnapshotChars := 0 } }
    progress := Rehearsal.progress }

end Gleaner
