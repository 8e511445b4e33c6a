import Gleaner.Proofs.Job.Structuring
import Gleaner.Proofs.Store.Distinct

/-!
# What is caught

A model that fails, or answers nonsense, is no fault of a discovery or of the structuring of items,
and what goes wrong in a run is told by its result. What is left over are a page whose URL cannot
be read and a time limit that cannot be kept.
-/

set_option autoImplicit false

namespace Gleaner

variable {σ α β : Type}

theorem Action.bind_error {action : Action σ α} {next : α → Action σ β} {world final : σ}
    {fault : Fault} :
    (action >>= next) world = (.error fault, final) ↔
      action world = (.error fault, final) ∨
        ∃ value after,
          action world = (.ok value, after) ∧ next value after = (.error fault, final) := by
  rw [bind_apply]
  cases acted : action world with
  | mk outcome after =>
      cases outcome with
      | error raised =>
          constructor
          · intro broke
            cases broke
            exact .inl rfl
          · rintro (broke | ⟨_, _, passed, _⟩)
            · cases broke
              rfl
            · cases passed
      | ok value =>
          constructor
          · exact fun broke => .inr ⟨value, after, rfl, broke⟩
          · rintro (broke | ⟨_, _, passed, broke⟩)
            · cases broke
            · cases passed
              exact broke

theorem Fault.of_bind {first : Except Fault α} {next : α → Except Fault β} {fault : Fault}
    (broke : (first >>= next) = .error fault) :
    first = .error fault ∨ ∃ value, first = .ok value ∧ next value = .error fault := by
  cases first with
  | error raised =>
      cases broke
      exact .inl rfl
  | ok value => exact .inr ⟨value, rfl, broke⟩

/-!
## Models
-/

namespace PageBindings

theorem ofFieldsOrFault_error {now : Float} {fields : Fields} {fault : Fault}
    (made : ofFieldsOrFault now fields = .error fault) :
    ∃ form problems, fault = .malformed form problems := by
  unfold ofFieldsOrFault at made
  generalize ofFields now fields = read at made
  rcases read with problems | record
  · cases made
    exact ⟨_, problems, rfl⟩
  · cases made

theorem patternOf_error {raw : Fields} {url : String} {fault : Fault}
    (read : patternOf raw url = .error fault) : ∃ url, fault = .badUrl url := by
  unfold patternOf at read
  generalize Complete.given? "urlPattern" (Complete.fill (Coerce.fields raw)) = given at read
  cases given with
  | some pattern => cases read
  | none =>
      cases host : Url.host url with
      | ok text =>
          rw [host] at read
          cases read
      | error unreadable =>
          rw [host] at read
          cases read
          exact ⟨unreadable, rfl⟩

theorem complete_error {now : Float} {raw : Fields} {url : String} {fault : Fault}
    (made : complete now raw url = .error fault)
    (wellFormed : ∀ form problems, fault ≠ .malformed form problems) :
    ∃ url, fault = .badUrl url := by
  rw [complete_eq] at made
  rcases Fault.of_bind made with read | ⟨pattern, -, made⟩
  · exact patternOf_error read
  · obtain ⟨form, problems, same⟩ := ofFieldsOrFault_error made
    exact absurd same (wellFormed form problems)

end PageBindings

namespace Advisor

variable (advisor : Advisor σ)

theorem inquire_ok (prompt : Prompt) (world : σ) :
    ∃ answer after, advisor.inquire prompt world = (.ok answer, after) := by
  unfold inquire
  rw [Action.tryCatch_apply]
  rcases (.ok <$> advisor.ask prompt : Action σ (Except String String)) world with
    ⟨fault | answer, after⟩
  · exact ⟨_, _, rfl⟩
  · exact ⟨answer, after, rfl⟩

theorem readDiscovery_error {now : Float} {url answer : String} {fault : Fault}
    (read : readDiscovery now url answer = .error fault) : ∃ url, fault = .badUrl url := by
  unfold readDiscovery at read
  cases given : Json.firstObject? answer with
  | none =>
      rw [given] at read
      cases read
  | some raw =>
      rw [given] at read
      cases made : PageBindings.complete now raw url with
      | ok b =>
          simp only [made] at read
          split at read <;> cases read
      | error raised =>
          simp only [made] at read
          cases raised with
          | malformed form problems => cases read
          | _ =>
              cases read
              exact PageBindings.complete_error made nofun

/-- The only fault of a discovery from a snapshot is that the URL of the page cannot be read. -/
theorem discover_error {page : Snapshot} {world after : σ} {fault : Fault}
    (asked : advisor.discover (some page) world = (.error fault, after)) :
    ∃ url, fault = .badUrl url := by
  rw [discover_apply] at asked
  split at asked
  · cases asked
  · obtain ⟨answer, here, inquired⟩ := advisor.inquire_ok (advisor.survey page) world
    rw [inquired] at asked
    cases answer with
    | error reason => cases asked
    | ok answer => exact readDiscovery_error (Prod.mk.inj asked).1

end Advisor

namespace JobExtractor

variable (extractor : JobExtractor σ)

theorem extract_ok (item : Item) (world : σ) :
    ∃ job after, extractor.extract item world = (.ok job, after) := by
  obtain ⟨job, after, extracted, -⟩ := extractor.extract_gives item world
  exact ⟨job, after, extracted⟩

/-- Structuring items never fails, whatever the model does. -/
theorem extractMany_ok (items : List Item) (world : σ) :
    ∃ jobs after, extractor.extractMany items world = (.ok jobs, after) := by
  induction items generalizing world with
  | nil => exact ⟨[], world, rfl⟩
  | cons item rest ih =>
      obtain ⟨job, here, extracted⟩ := extractor.extract_ok item world
      obtain ⟨jobs, after, others⟩ := ih here
      refine ⟨job.toList ++ jobs, after, ?_⟩
      rw [extractMany, Action.bind_apply, extracted]
      dsimp only
      rw [Action.bind_apply, others]
      rfl

end JobExtractor

/-!
## Runs
-/

namespace Session

variable {host : Host σ} {session : Session σ} {fault : Fault}

theorem begin_world (limits : RunLimits) :
    (begin host limits session).2.world = session.world := by
  obtain ⟨deadline, begun⟩ := begin_renews host session limits
  rw [begun]

theorem begin_error {limits : RunLimits} :
    (begin host limits session).1 = .error fault ↔
      ∃ timeoutMs, limits.timeoutMs = some timeoutMs ∧
        host.clock.deadline timeoutMs session.world = .error fault := by
  rw [begin_verdict]
  cases limits.timeoutMs with
  | none =>
      constructor
      · intro broke
        cases broke
      · rintro ⟨_, ⟨⟩, -⟩
  | some timeoutMs =>
      cases reckoned : host.clock.deadline timeoutMs session.world with
      | error raised => simp [reckoned, Except.map]
      | ok deadline => simp [reckoned, Except.map]

/-- A run ends with a fault only where it cannot begin, and nothing has happened by then. -/
theorem execute_error {recipe : Recipe} :
    (execute host recipe session).1 = .error fault ↔
      ∃ timeoutMs, recipe.limits.timeoutMs = some timeoutMs ∧
        host.clock.deadline timeoutMs session.world = .error fault := by
  rw [execute_apply, ← begin_error]
  rcases begin host recipe.limits session with ⟨raised | _, begun⟩ <;> dsimp only
  · constructor <;> rintro ⟨⟩ <;> rfl
  · constructor <;> rintro ⟨⟩

theorem execute_error_world {recipe : Recipe}
    (broke : (execute host recipe session).1 = .error fault) :
    (execute host recipe session).2.world = session.world := by
  have still := @begin_world _ host session recipe.limits
  rw [execute_apply] at broke ⊢
  generalize begin host recipe.limits session = begun at broke still ⊢
  rcases begun with ⟨raised | _, begun⟩
  · exact still
  · cases broke

end Session

end Gleaner
