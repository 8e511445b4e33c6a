import Gleaner.Proofs.Harvest.Faults
import Gleaner.Proofs.Harvest.Isolation

/-!
# What a harvest asks its model

The model is asked for two things: where the parts of a page are, and how a binding that failed
should be. A harvest that need not discover bindings does not ask for places, so it is the same
whatever the model would say about them.
-/

set_option autoImplicit false

namespace Gleaner

variable {σ : Type}

/-- The model is asked where things are on a page. -/
def Completion.asksPlaces (completion : Completion) : Prop :=
  ∃ user, completion.messages = [⟨.system, Prompt.discoverySystem⟩, ⟨.user, user⟩]

/-- The models do the same for every question but those where things are on a page. -/
def Model.SameElsewhere (model other : Model σ) : Prop :=
  ∀ completion, ¬ completion.asksPlaces → other.complete completion = model.complete completion

def Advisor.asking (advisor : Advisor σ) (model : Model σ) : Advisor σ :=
  { advisor with model }

/-- The harvester whose advisor asks another model. -/
def Harvester.asking (harvester : Harvester σ) (model : Model σ) : Harvester σ :=
  { harvester with advisor := harvester.advisor.asking model }

namespace Advisor

variable {advisor : Advisor σ} {model : Model σ}

/-- The tasks of both systems differ, so a repair is no question for places. -/
theorem repairSystem_ne : Prompt.repairSystem ≠ Prompt.discoverySystem := by
  decide +kernel

theorem inquire_asking (same : advisor.model.SameElsewhere model) {prompt : Prompt}
    (other : prompt.system ≠ Prompt.discoverySystem) :
    (advisor.asking model).inquire prompt = advisor.inquire prompt := by
  have asked : (advisor.asking model).ask prompt = advisor.ask prompt := by
    have answers := same
      { messages := [⟨.system, prompt.system⟩, ⟨.user, prompt.user⟩], model := advisor.modelName }
      fun ⟨user, places⟩ => other (congrArg Message.content (List.cons.inj places).1)
    simp only [ask, asking, answers]
  rw [inquire, asked, inquire]

theorem repairer_asking (same : advisor.model.SameElsewhere model) :
    (advisor.asking model).repairer = advisor.repairer := by
  funext request
  have fixed : (advisor.asking model).fix request = advisor.fix request := by
    have asked : (advisor.asking model).inquire (advisor.question request) =
        advisor.inquire (advisor.question request) := inquire_asking same repairSystem_ne
    show ((advisor.asking model).inquire (advisor.question request) >>= _ : Action σ _) = _
    rw [asked]
    rfl
  rw [repairer, fixed, repairer]

theorem discovery_system (limits : PromptLimits) (url title elements : String)
    (visible : Option String) :
    (Prompt.discovery limits url title elements visible).system = Prompt.discoverySystem := by
  rw [Prompt.discovery]

/-- A discovery on a page that is long enough is a question for places and nothing else. -/
theorem discover_asks {snapshot : Snapshot} (here : σ)
    (long : advisor.settings.minSnapshotChars ≤ (Text.strip snapshot.elements).length) :
    ∃ prompt : Prompt, prompt.system = Prompt.discoverySystem ∧
      (advisor.discover (some snapshot) here).2 = (advisor.inquire prompt here).2 := by
  refine ⟨advisor.survey snapshot, discovery_system .., ?_⟩
  rw [discover_apply, if_neg (Nat.not_lt.mpr long)]
  rcases advisor.inquire (advisor.survey snapshot) here with ⟨fault | reason | answer, after⟩ <;> rfl

end Advisor

/-!
## Harvests with another model
-/

namespace Harvester

variable {harvester : Harvester σ} {model : Model σ}

theorem tries_first (harvester : Harvester σ) (recipe : Recipe) (fresh : Bool) :
    harvester.tries recipe maxAttempts fresh = do
      let attempt ← harvester.attempt recipe 1 fresh
      harvester.conclude (true && attempt.invites) attempt
      if true && attempt.invites then return attempt :: (← harvester.tries recipe 1 true)
      else return [attempt] :=
  rfl

/-- A harvest whose first attempt is the same with another model, and does not invite another one,
is the same with that model. -/
theorem harvest_asking {recipe : Recipe} {fresh : Bool} {here : σ}
    (first : (harvester.asking model).attempt recipe 1 fresh here =
      harvester.attempt recipe 1 fresh here)
    (content : ∀ attempt there, harvester.attempt recipe 1 fresh here = (.ok attempt, there) →
      attempt.invites = false) :
    (harvester.asking model).harvest recipe fresh here = harvester.harvest recipe fresh here := by
  have conclude : (harvester.asking model).conclude = harvester.conclude := rfl
  have finish : (harvester.asking model).finish = harvester.finish := rfl
  have clock : (harvester.asking model).clock = harvester.clock := rfl
  have tried : (harvester.asking model).tries recipe maxAttempts fresh here =
      harvester.tries recipe maxAttempts fresh here := by
    rw [tries_first, tries_first, Action.bind_apply, Action.bind_apply, first]
    rcases ran : harvester.attempt recipe 1 fresh here with ⟨fault | attempt, there⟩
    · rfl
    · dsimp only
      simp only [content attempt there ran, conclude, Bool.and_false, Bool.false_eq_true, if_false]
  rw [harvest_apply, harvest_apply, attempts_eq_tries _ _ _ _ rfl, attempts_eq_tries _ _ _ _ rfl,
    Action.bind_apply, Action.bind_apply, Action.bind_apply, Action.bind_apply, tried, finish, clock]

section SameElsewhere

variable (same : harvester.advisor.model.SameElsewhere model)

include same

theorem runWith_asking (recipe : Recipe) (b : PageBindings) :
    (harvester.asking model).runWith recipe b = harvester.runWith recipe b := by
  have host : (harvester.asking model).host = harvester.host := by
    simp only [Harvester.host, asking, Advisor.repairer_asking same]
  funext world
  rw [runWith_apply, runWith_apply, ran, host, ran]
  rfl

/-- An attempt is the same with another model if its bindings are acquired in the same way. -/
theorem attempt_asking {recipe : Recipe} {number : Nat} {fresh : Bool} {here : σ}
    (acquires :
      let there := harvester.told s!"Attempt {number}/{maxAttempts}: acquiring bindings" here
      (harvester.asking model).acquire recipe fresh there = harvester.acquire recipe fresh there) :
    (harvester.asking model).attempt recipe number fresh here =
      harvester.attempt recipe number fresh here := by
  have progress : (harvester.asking model).progress = harvester.progress := rfl
  unfold attempt
  simp only [runWith_asking same, progress]
  rw [Action.bind_apply, Action.bind_apply]
  unfold told at acquires
  rcases tells : harvester.progress s!"Attempt {number}/{maxAttempts}: acquiring bindings" here with
    ⟨fault | _, there⟩
  · rfl
  · rw [tells] at acquires
    dsimp only at acquires ⊢
    rw [Action.bind_apply, acquires, Action.bind_apply]

end SameElsewhere

/-!
## Discoveries
-/

/-- Bindings that take no record's place are read from what the model answers about the page. -/
theorem rediscover_new {url : String} {here after : σ} {acquired : Acquired}
    (ran : harvester.rediscover url none here = (.ok (.ok acquired), after)) :
    ∃ snapshot there prompt answer warnings,
      harvester.snapshotOf url here = (.ok snapshot, there) ∧
      harvester.advisor.inquire prompt there = (.ok (.ok answer), after) ∧
      Advisor.readDiscovery (harvester.advisor.clock.time after) snapshot.url answer =
        .ok (.ok ⟨acquired.bindings, warnings⟩) := by
  obtain ⟨snapshot, there, looked, ran⟩ := Action.bind_ok ran
  obtain ⟨found, seen, asked, ran⟩ := Action.bind_ok ran
  cases found with
  | error reason => cases ran
  | ok found =>
      cases ran
      obtain ⟨_, prompt, answer, ⟨⟩, inquired, read⟩ := Advisor.discover_ok asked
      exact ⟨snapshot, there, prompt, answer, found.warnings, looked, inquired, read⟩

/-- Once the page is seen the model is asked where things are on it, whatever comes of it. -/
theorem rediscover_asks {url : String} {stored : Option PageBindings} {here there : σ}
    {snapshot : Snapshot} (looked : harvester.snapshotOf url here = (.ok snapshot, there))
    (long : harvester.advisor.settings.minSnapshotChars ≤
      (Text.strip snapshot.elements).length) :
    ∃ prompt : Prompt, prompt.system = Prompt.discoverySystem ∧
      (harvester.rediscover url stored here).2 = (harvester.advisor.inquire prompt there).2 := by
  obtain ⟨prompt, places, same⟩ := Advisor.discover_asks there long
  refine ⟨prompt, places, ?_⟩
  unfold rediscover
  rw [Action.bind_apply, looked]
  dsimp only
  rw [Action.bind_apply, ← same]
  rcases harvester.advisor.discover (some snapshot) there with ⟨fault | reason | found, after⟩
  · rfl
  · rfl
  · cases stored <;> rfl

end Harvester

end Gleaner
