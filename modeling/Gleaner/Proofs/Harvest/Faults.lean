import Gleaner.Proofs.Harvest.Attempts
import Gleaner.Proofs.Harvest.Caught
import Gleaner.Proofs.Harvest.Client

/-!
# Where a harvest breaks

A harvest reports what goes wrong while its recipe runs, and what a model has to say about it. It
does not catch everything: a fault of the store, of the page that is looked at for bindings, of a
time limit or of the final write ends the harvest, and there is no report. Nothing else does.
-/

set_option autoImplicit false

namespace Gleaner

variable {σ α : Type}

namespace Harvester

variable (harvester : Harvester σ)

/-- To tell how the harvest is getting on never fails. -/
def Outspoken : Prop :=
  ∀ line world, ∃ after, harvester.progress line world = (.ok (), after)

/-- The world after a line is told. -/
def told (line : String) (world : σ) : σ :=
  (harvester.progress line world).2

variable {harvester}

theorem Outspoken.tells (outspoken : harvester.Outspoken) (line : String) (world : σ) :
    harvester.progress line world = (.ok (), harvester.told line world) := by
  obtain ⟨after, told⟩ := outspoken line world
  rw [Harvester.told, told]

theorem Outspoken.bind_apply (outspoken : harvester.Outspoken) (line : String)
    (next : Unit → Action σ α) (world : σ) :
    (harvester.progress line >>= next) world = next () (harvester.told line world) := by
  rw [Action.bind_apply, outspoken.tells]

variable (harvester)

/-- A page of a URL that is not seen: it cannot be reached, or there is no snapshot of it. -/
inductive Unseen (url : String) (world : σ) (fault : Fault) (after : σ) : Prop where
  | unreached :
      url ≠ "" → harvester.page.url world ≠ url →
      harvester.page.navigate url world = (.error fault, after) → Unseen url world fault after
  | reached {there : σ} :
      url ≠ "" → harvester.page.url world ≠ url →
      harvester.page.navigate url world = (.ok (), there) →
      harvester.settledSnapshot 2 there = (.error fault, after) → Unseen url world fault after
  | stayed :
      (url ≠ "" → harvester.page.url world = url) →
      harvester.settledSnapshot 2 world = (.error fault, after) → Unseen url world fault after

theorem snapshotOf_error {url : String} {world after : σ} {fault : Fault} :
    harvester.snapshotOf url world = (.error fault, after) ↔
      harvester.Unseen url world fault after := by
  unfold snapshotOf
  rw [Action.get_bind_apply]
  by_cases goes : url ≠ "" ∧ harvester.page.url world ≠ url
  · rw [if_pos (by simpa using goes), Action.bind_error]
    constructor
    · rintro (unreached | ⟨_, there, reached, unread⟩)
      · exact .unreached goes.1 goes.2 unreached
      · exact .reached goes.1 goes.2 reached unread
    · rintro (⟨-, -, unreached⟩ | ⟨-, -, reached, unread⟩ | ⟨stayed, -⟩)
      · exact .inl unreached
      · exact .inr ⟨_, _, reached, unread⟩
      · exact absurd (stayed goes.1) goes.2
  · rw [if_neg (by simpa using goes)]
    constructor
    · intro unread
      exact .stayed (fun given => not_not.mp fun other => goes ⟨given, other⟩) unread
    · rintro (⟨given, other, -⟩ | ⟨given, other, -, -⟩ | ⟨-, unread⟩)
      · exact absurd ⟨given, other⟩ goes
      · exact absurd ⟨given, other⟩ goes
      · exact unread

/-- What the store answers will not do, and that is told. -/
inductive Declines (fresh : Bool) (world : σ) : Option PageBindings → σ → Prop where
  | missing : Declines fresh world none world
  | unwanted (stored : PageBindings) : fresh = true → Declines fresh world (some stored) world
  | objected {stored : PageBindings} {reason : String} :
      fresh = false → harvester.objection (harvester.clock.time world) stored = some reason →
      Declines fresh world (some stored) (harvester.told reason world)

theorem acquireFrom_stored (url : String) (stored : PageBindings) (world : σ) :
    harvester.acquireFrom url false (some stored) world =
      (match harvester.objection (harvester.clock.time world) stored with
        | some reason => do
            harvester.progress reason
            harvester.rediscover url (some stored)
        | none => do
            harvester.progress s!"Using stored bindings {stored.id} v{stored.version}"
            return .ok ⟨stored, some stored.version⟩ : Action σ _) world :=
  rfl

variable {harvester}

theorem Declines.acquireFrom (outspoken : harvester.Outspoken) {fresh : Bool} {world there : σ}
    {found : Option PageBindings} (declines : harvester.Declines fresh world found there)
    (url : String) :
    harvester.acquireFrom url fresh found world = harvester.rediscover url found there := by
  cases declines with
  | missing => rfl
  | unwanted stored forced =>
      subst forced
      rfl
  | objected unforced objects =>
      subst unforced
      rw [harvester.acquireFrom_stored, objects]
      exact outspoken.bind_apply _ _ world

/-- What is not declined is taken, and nothing can go wrong with that. -/
theorem Outspoken.declines_or_takes (outspoken : harvester.Outspoken) (url : String) (fresh : Bool)
    (found : Option PageBindings) (world : σ) :
    (∃ there, harvester.Declines fresh world found there) ∨
      ∃ acquired after,
        harvester.acquireFrom url fresh found world = (.ok (.ok acquired), after) := by
  cases found with
  | none => exact .inl ⟨world, .missing⟩
  | some stored =>
      cases fresh with
      | true => exact .inl ⟨world, .unwanted stored rfl⟩
      | false =>
          cases objects : harvester.objection (harvester.clock.time world) stored with
          | some reason => exact .inl ⟨_, .objected rfl objects⟩
          | none =>
              have takes := harvester.acquireFrom_stored url stored world
              rw [objects] at takes
              exact .inr ⟨_, _, takes.trans (outspoken.bind_apply _ _ world)⟩

theorem Outspoken.acquireFrom_error (outspoken : harvester.Outspoken) {url : String} {fresh : Bool}
    {found : Option PageBindings} {world after : σ} {fault : Fault} :
    harvester.acquireFrom url fresh found world = (.error fault, after) ↔
      ∃ there, harvester.Declines fresh world found there ∧
        harvester.rediscover url found there = (.error fault, after) := by
  constructor
  · intro broke
    rcases outspoken.declines_or_takes url fresh found world with
      ⟨there, declines⟩ | ⟨acquired, later, takes⟩
    · exact ⟨there, declines, (declines.acquireFrom outspoken url).symm.trans broke⟩
    · rw [takes] at broke
      cases broke
  · rintro ⟨there, declines, broke⟩
    exact (declines.acquireFrom outspoken url).trans broke

variable (harvester)

theorem rediscover_error {url : String} {stored : Option PageBindings} {world after : σ}
    {fault : Fault} :
    harvester.rediscover url stored world = (.error fault, after) ↔
      harvester.Unseen url world fault after ∨
        ∃ snapshot seen, harvester.snapshotOf url world = (.ok snapshot, seen) ∧
          harvester.advisor.discover (some snapshot) seen = (.error fault, after) := by
  unfold rediscover
  rw [Action.bind_error, snapshotOf_error]
  refine or_congr_right (exists_congr fun snapshot => exists_congr fun seen =>
    and_congr_right fun _ => ?_)
  rw [Action.bind_error]
  refine or_iff_left fun ⟨answer, later, _, made⟩ => ?_
  cases answer <;> cases stored <;> cases made

/-- A fault on the way to bindings: of the store, of the page that is looked at, or of the URL
that it has. -/
inductive Unacquired (recipe : Recipe) (fresh : Bool) (world : σ) (fault : Fault) (after : σ) :
    Prop where
  | unasked :
      harvester.store.query (harvester.siteUrl recipe world) world = (.error fault, after) →
      Unacquired recipe fresh world fault after
  | unseen {found : Option PageBindings} {here there : σ} :
      harvester.store.query (harvester.siteUrl recipe world) world = (.ok found, here) →
      harvester.Declines fresh here found there →
      harvester.Unseen (harvester.siteUrl recipe world) there fault after →
      Unacquired recipe fresh world fault after
  | undiscovered {found : Option PageBindings} {here there seen : σ} {snapshot : Snapshot}
      {unreadable : Url.UrlFault} :
      harvester.store.query (harvester.siteUrl recipe world) world = (.ok found, here) →
      harvester.Declines fresh here found there →
      harvester.snapshotOf (harvester.siteUrl recipe world) there = (.ok snapshot, seen) →
      harvester.advisor.discover (some snapshot) seen = (.error fault, after) →
      fault = .badUrl unreadable →
      Unacquired recipe fresh world fault after

variable {harvester}

theorem Outspoken.acquire_error (outspoken : harvester.Outspoken) {recipe : Recipe} {fresh : Bool}
    {world after : σ} {fault : Fault} :
    harvester.acquire recipe fresh world = (.error fault, after) ↔
      harvester.Unacquired recipe fresh world fault after := by
  rw [acquire_apply, Action.bind_error]
  constructor
  · rintro (unasked | ⟨found, here, asked, broke⟩)
    · exact .unasked unasked
    · obtain ⟨there, declines, broke⟩ := outspoken.acquireFrom_error.mp broke
      rcases harvester.rediscover_error.mp broke with unseen | ⟨snapshot, seen, looked, broke⟩
      · exact .unseen asked declines unseen
      · obtain ⟨unreadable, same⟩ := harvester.advisor.discover_error broke
        exact .undiscovered asked declines looked broke same
  · rintro (unasked | ⟨asked, declines, unseen⟩ | ⟨asked, declines, looked, broke, -⟩)
    · exact .inl unasked
    · exact .inr ⟨_, _, asked, outspoken.acquireFrom_error.mpr
        ⟨_, declines, harvester.rediscover_error.mpr (.inl unseen)⟩⟩
    · exact .inr ⟨_, _, asked, outspoken.acquireFrom_error.mpr
        ⟨_, declines, harvester.rediscover_error.mpr (.inr ⟨_, _, looked, broke⟩)⟩⟩

variable (harvester)

/-- Whatever happens in a run, it fails only where its time limit cannot be kept. -/
theorem runWith_error {recipe : Recipe} {b : PageBindings} {world after : σ} {fault : Fault} :
    harvester.runWith recipe b world = (.error fault, after) ↔
      (∃ timeoutMs, recipe.limits.timeoutMs = some timeoutMs ∧
        harvester.clock.deadline timeoutMs world = .error fault) ∧ after = world := by
  have limits := @Session.execute_error _ harvester.host
    (Session.start harvester.clock b world) fault recipe
  have still := @Session.execute_error_world _ harvester.host
    (Session.start harvester.clock b world) fault recipe
  rw [runWith_apply]
  unfold ran
  generalize Session.execute harvester.host recipe
    (Session.start harvester.clock b world) = ended at limits still ⊢
  rcases ended with ⟨raised | result, session⟩
  · constructor
    · rintro ⟨⟩
      exact ⟨limits.mp rfl, still rfl⟩
    · rintro ⟨limited, rfl⟩
      cases limits.mpr limited
      rw [still rfl]
      rfl
  · constructor
    · rintro ⟨⟩
    · rintro ⟨limited, -⟩
      cases limits.mpr limited

theorem saveBindings_error (outspoken : harvester.Outspoken) {b : PageBindings}
    {expected : Option Int} {world after : σ} {fault : Fault} :
    harvester.saveBindings b expected world = (.error fault, after) ↔
      harvester.store.put b expected world = (.error fault, after) ∧
        ∀ id version stored, fault ≠ .staleBindings id version stored := by
  unfold saveBindings
  rw [Action.bind_apply, Action.tryCatch_apply, Action.bind_apply]
  rcases harvester.store.put b expected world with ⟨raised | _, here⟩
  · dsimp only
    cases raised with
    | staleBindings id version stored =>
        constructor
        · rintro ⟨⟩
        · rintro ⟨⟨⟩, other⟩
          exact absurd rfl (other id version stored)
    | _ =>
        constructor
        · rintro ⟨⟩
          exact ⟨rfl, nofun⟩
        · rintro ⟨⟨⟩, -⟩
          rfl
  · constructor
    · intro broke
      have told := outspoken.tells s!"Saved bindings {b.id} v{b.version}" here
      cases told.symm.trans broke
    · rintro ⟨⟨⟩, -⟩

theorem conclude_error (outspoken : harvester.Outspoken) {again : Bool} {attempt : Attempt}
    {world after : σ} {fault : Fault} :
    harvester.conclude again attempt world = (.error fault, after) ↔
      ∃ acquired result record, attempt = .ran acquired result record ∧ result.error = none ∧
        harvester.saveBindings record acquired.expected
          (harvester.told s!"Collected {result.items.length} items" world) =
            (.error fault, after) := by
  cases attempt with
  | refused error =>
      constructor
      · intro broke
        cases (outspoken.tells _ world).symm.trans broke
      · rintro ⟨_, _, _, ⟨⟩, -⟩
  | ran acquired result record =>
      cases failed : result.error with
      | none =>
          simp only [conclude, failed]
          rw [outspoken.bind_apply]
          constructor
          · exact fun broke => ⟨acquired, result, record, rfl, failed, broke⟩
          · rintro ⟨_, _, _, ⟨⟩, -, broke⟩
            exact broke
      | some error =>
          simp only [conclude, failed]
          rw [outspoken.bind_apply]
          constructor
          · intro broke
            split at broke
            · cases (outspoken.tells _ _).symm.trans broke
            · cases broke
          · rintro ⟨_, _, _, ⟨⟩, fine, -⟩
            cases failed.symm.trans fine

/-- The line that is told before a recipe runs. -/
def runLine (recipe : Recipe) (b : PageBindings) : String :=
  let title := if recipe.name = "" then recipe.id else recipe.name
  s!"Executing '{title}' with bindings {b.id} v{b.version}"

/-- What spoils an attempt: a fault on the way to bindings, or a time limit that cannot be kept. -/
inductive Spoils (recipe : Recipe) (number : Nat) (fresh : Bool) (world : σ) (fault : Fault) :
    σ → Prop where
  | acquiring {after : σ} :
      harvester.Unacquired recipe fresh
        (harvester.told s!"Attempt {number}/{maxAttempts}: acquiring bindings" world)
        fault after →
      Spoils recipe number fresh world fault after
  | limiting {acquired : Acquired} {here : σ} {timeoutMs : Nat} :
      harvester.acquire recipe fresh
        (harvester.told s!"Attempt {number}/{maxAttempts}: acquiring bindings" world) =
          (.ok (.ok acquired), here) →
      recipe.limits.timeoutMs = some timeoutMs →
      harvester.clock.deadline timeoutMs
        (harvester.told (runLine recipe acquired.bindings) here) = .error fault →
      Spoils recipe number fresh world fault
        (harvester.told (runLine recipe acquired.bindings) here)

theorem attempt_error (outspoken : harvester.Outspoken) {recipe : Recipe} {number : Nat}
    {fresh : Bool} {world after : σ} {fault : Fault} :
    harvester.attempt recipe number fresh world = (.error fault, after) ↔
      harvester.Spoils recipe number fresh world fault after := by
  unfold attempt
  rw [outspoken.bind_apply, Action.bind_error, outspoken.acquire_error]
  constructor
  · rintro (unacquired | ⟨reason | acquired, here, acquires, broke⟩)
    · exact .acquiring unacquired
    · cases broke
    · dsimp only at broke
      rw [outspoken.bind_apply] at broke
      rcases Action.bind_error.mp broke with broke | ⟨_, _, -, broke⟩
      · obtain ⟨⟨timeoutMs, limited, late⟩, rfl⟩ := harvester.runWith_error.mp broke
        exact .limiting acquires limited late
      · cases broke
  · rintro (unacquired | ⟨acquires, limited, late⟩)
    · exact .inl unacquired
    · refine .inr ⟨_, _, acquires, ?_⟩
      dsimp only
      rw [outspoken.bind_apply, Action.bind_error]
      exact .inl (harvester.runWith_error.mpr ⟨⟨_, limited, late⟩, rfl⟩)

/-- Where a harvest ends without a report, with so many attempts to go: an attempt is spoiled, its
bindings cannot be saved, or it invites another one and that ends so. -/
inductive Breaks (recipe : Recipe) : (more : Nat) → (fresh : Bool) → σ → Fault → σ → Prop where
  | spoiled {more : Nat} {fresh : Bool} {world after : σ} {fault : Fault} :
      harvester.Spoils recipe (maxAttempts - more) fresh world fault after →
      Breaks recipe (more + 1) fresh world fault after
  | unsaved {more : Nat} {fresh : Bool} {world made after : σ} {fault : Fault}
      {acquired : Acquired} {result : RunResult} {record : PageBindings} :
      harvester.attempt recipe (maxAttempts - more) fresh world =
        (.ok (.ran acquired result record), made) →
      result.error = none →
      harvester.store.put record acquired.expected
        (harvester.told s!"Collected {result.items.length} items" made) = (.error fault, after) →
      (∀ id version stored, fault ≠ .staleBindings id version stored) →
      Breaks recipe (more + 1) fresh world fault after
  | again {more : Nat} {fresh : Bool} {world made concluded after : σ} {fault : Fault}
      {attempt : Attempt} :
      harvester.attempt recipe (maxAttempts - more) fresh world = (.ok attempt, made) →
      attempt.invites = true →
      harvester.conclude true attempt made = (.ok (), concluded) →
      Breaks recipe more true concluded fault after →
      Breaks recipe (more + 1) fresh world fault after

theorem tries_error (outspoken : harvester.Outspoken) {recipe : Recipe} {more : Nat}
    {fresh : Bool} {world after : σ} {fault : Fault} :
    harvester.tries recipe more fresh world = (.error fault, after) ↔
      harvester.Breaks recipe more fresh world fault after := by
  induction more generalizing fresh world with
  | zero =>
      constructor
      · rintro ⟨⟩
      · rintro ⟨⟩
  | succ more ih =>
      rw [tries, Action.bind_error, harvester.attempt_error outspoken]
      constructor
      · rintro (spoiled | ⟨attempt, made, attempted, broke⟩)
        · exact .spoiled spoiled
        · rcases Action.bind_error.mp broke with broke | ⟨_, concluded, concludes, broke⟩
          · obtain ⟨acquired, result, record, rfl, fine, broke⟩ :=
              (harvester.conclude_error outspoken).mp broke
            obtain ⟨unsaved, other⟩ := (harvester.saveBindings_error outspoken).mp broke
            exact .unsaved attempted fine unsaved other
          · split at broke
            next again =>
              rcases Action.bind_error.mp broke with broke | ⟨_, _, -, broke⟩
              · rw [again] at concludes
                exact .again attempted (Bool.and_eq_true_iff.mp again).2 concludes (ih.mp broke)
              · cases broke
            next => cases broke
      · intro broke
        cases broke with
        | spoiled spoiled => exact .inl spoiled
        | unsaved attempted fine unsaved other =>
            refine .inr ⟨_, _, attempted, Action.bind_error.mpr (.inl ?_)⟩
            exact (harvester.conclude_error outspoken).mpr ⟨_, _, _, rfl, fine,
              (harvester.saveBindings_error outspoken).mpr ⟨unsaved, other⟩⟩
        | @again _ _ _ made concluded _ _ attempt attempted invited concludes broke =>
            have further : more ≠ 0 := by
              rintro rfl
              cases broke
            have again : (more ≠ 0 && attempt.invites) = true :=
              Bool.and_eq_true_iff.mpr ⟨decide_eq_true further, invited⟩
            have rest : (do return attempt :: (← harvester.tries recipe more true) : Action σ _)
                concluded = (.error fault, after) :=
              Action.bind_error.mpr (.inl (ih.mpr broke))
            refine .inr ⟨attempt, made, attempted, ?_⟩
            rw [again, Action.bind_error]
            exact .inr ⟨(), concluded, concludes, rest⟩

theorem structured_ok (outspoken : harvester.Outspoken) (harvest : Harvest) (world : σ) :
    ∃ jobs after, harvester.structured harvest world = (.ok { harvest with jobs }, after) := by
  unfold structured
  cases harvester.extractor with
  | none => exact ⟨_, _, rfl⟩
  | some extractor =>
      dsimp only
      split
      · exact ⟨_, _, rfl⟩
      · rw [outspoken.bind_apply, Action.bind_apply]
        obtain ⟨jobs, after, extracted⟩ := extractor.extractMany_ok harvest.items
          (harvester.told s!"Structuring {harvest.items.length} items" world)
        rw [extracted]
        exact ⟨jobs, after, rfl⟩

variable {harvester}

/-- Of attempts that end well or badly, the last one says whether the harvest succeeded. -/
theorem tries_success {recipe : Recipe} {more : Nat} {fresh : Bool} {here after : σ}
    {tried : List Attempt} (ran : harvester.tries recipe (more + 1) fresh here = (.ok tried, after))
    {harvest : Harvest} (unsuccessful : harvest.success = false) :
    (tried.foldl Harvest.tally harvest).success = true ↔
      (tried.foldl Harvest.tally harvest).error = none := by
  have last {attempt : Attempt} {harvest : Harvest} (unsuccessful : harvest.success = false) :
      (harvest.tally attempt).success = true ↔ (harvest.tally attempt).error = none := by
    cases attempt with
    | refused error => simp [Harvest.tally, unsuccessful]
    | ran acquired result record => exact Option.isNone_iff_eq_none
  induction more generalizing fresh here tried harvest with
  | zero =>
      obtain ⟨attempt, _, _, -, -, ⟨rfl, -⟩ | ⟨none, -⟩⟩ := harvester.tries_ok ran
      · exact last unsuccessful
      · exact absurd rfl none
  | succ more ih =>
      obtain ⟨attempt, _, _, -, -, ⟨rfl, -⟩ | ⟨-, invited, rest, rfl, further⟩⟩ :=
        harvester.tries_ok ran
      · exact last unsuccessful
      · refine ih further ?_
        obtain ⟨error, rfl⟩ | ⟨acquired, result, record, error, rfl, -, failed, -⟩ :=
          Attempt.invites_iff.mp invited
        · exact unsuccessful
        · show result.error.isNone = false
          rw [failed]
          rfl

/-- A harvest ends without a report exactly where it breaks: all faults but those are caught. Where
there is a report, it says that the harvest succeeded or why it did not. -/
theorem harvest_breaks (outspoken : harvester.Outspoken) (recipe : Recipe) (fresh : Bool)
    (world : σ) :
    (∀ fault after, harvester.harvest recipe fresh world = (.error fault, after) ↔
      harvester.Breaks recipe maxAttempts fresh world fault after) ∧
    ∀ harvest after, harvester.harvest recipe fresh world = (.ok harvest, after) →
      (harvest.success = true ↔ harvest.error = none) := by
  rw [harvest_apply, attempts_eq_tries _ _ _ _ rfl]
  constructor
  · intro fault after
    rw [Action.bind_error, Action.bind_error, harvester.tries_error outspoken]
    constructor
    · rintro ((broke | ⟨_, _, -, broke⟩) | ⟨harvest, here, -, broke⟩)
      · exact broke
      · cases broke
      · obtain ⟨jobs, there, structured⟩ := harvester.structured_ok outspoken harvest here
        rcases Action.bind_error.mp broke with broke | ⟨_, _, -, broke⟩
        · cases structured.symm.trans broke
        · cases broke
    · exact fun broke => .inl (.inl broke)
  · intro harvest after returned
    obtain ⟨report, ended, looped, finishes⟩ := Action.bind_ok returned
    obtain ⟨tried, last, ran, looped⟩ := Action.bind_ok looped
    cases looped
    obtain ⟨structured, there, structures, finishes⟩ := Action.bind_ok finishes
    obtain ⟨jobs, later, same⟩ := harvester.structured_ok outspoken
      (tried.foldl Harvest.tally {}) ended
    cases same.symm.trans structures
    cases finishes
    exact tries_success ran rfl

end Harvester

namespace Rehearsal

/-- The page of the jobs cannot be reached. -/
def unreachable : World :=
  { faults :=
      [("navigate_to",
        [some (.navigation "net::ERR_NAME_NOT_RESOLVED" (some "https://jobs.example.com"))])] }

def toJobs : Recipe :=
  { id := "listing", commands := [.openPage "https://jobs.example.com"] }

/-- The fault that a harvest of a page ends with that cannot be reached. -/
def unreachableFault : Option (Option FaultKind × String) :=
  match (harvester.harvest toJobs false unreachable).1 with
  | .error fault => some (fault.kind?, fault.message)
  | .ok _ => none

theorem outspoken : harvester.Outspoken := by
  intro line world
  show ∃ after, progress line world = (.ok (), after)
  unfold progress
  dsimp only
  split
  · split <;> exact ⟨_, rfl⟩
  · exact ⟨_, rfl⟩

end Rehearsal

open Rehearsal

theorem unreachable_harvest :
    unreachableFault = some (some .navigation, "net::ERR_NAME_NOT_RESOLVED") := by
  decide +kernel

/-- A page that cannot be reached breaks the harvest before its recipe runs. -/
theorem Harvester.harvest_breaks_when_unreachable :
    harvester.Outspoken ∧
      ∃ fault after, harvester.harvest toJobs false unreachable = (.error fault, after) ∧
        harvester.Breaks toJobs maxAttempts false unreachable fault after ∧
        fault.kind? = some .navigation := by
  refine ⟨outspoken, ?_⟩
  have ends := unreachable_harvest
  unfold unreachableFault at ends
  rcases ended : harvester.harvest toJobs false unreachable with ⟨fault | harvest, after⟩
  · rw [ended] at ends
    exact ⟨fault, after, rfl, ((harvest_breaks outspoken toJobs false unreachable).1 _ _).mp ended,
      (Prod.ext_iff.mp (Option.some.inj ends)).1⟩
  · rw [ended] at ends
    cases ends

/-- Not every harvest ends with a report. -/
theorem Harvester.harvest_unreported :
    ¬ ∀ (recipe : Recipe) (fresh : Bool) (world : World), ∃ harvest after,
      harvester.harvest recipe fresh world = (.ok harvest, after) := by
  intro reports
  obtain ⟨harvest, after, returned⟩ := reports toJobs false unreachable
  have ends := unreachable_harvest
  unfold unreachableFault at ends
  rw [returned] at ends
  cases ends

end Gleaner
