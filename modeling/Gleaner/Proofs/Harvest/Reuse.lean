import Gleaner.Proofs.Advisor.Grounded
import Gleaner.Proofs.Advisor.Upkeep
import Gleaner.Proofs.Harvest.Asking

/-!
# When a harvest reuses what an earlier one has left

A harvest that discovers bindings and succeeds leaves them for the next one. The next one finds
them, since their pattern is the host of the page, and takes them if they meet every demand: most of
these a discovered record always meets, but it may lack selectors for details or a button that it
needs, and then they are discovered again.
-/

set_option autoImplicit false

namespace Gleaner

variable {σ τ : Type}

/-!
## The record is found again
-/

theorem Url.host_ne_empty {url host : String} (named : url ≠ "") (read : Url.host url = .ok host) :
    host ≠ "" := by
  obtain ⟨_, -, read⟩ := Json.bind_ok read
  dsimp only at read
  split at read
  · cases read
  · generalize lowerHost (hostPart (netloc url.toList)) = name at read
    cases read
    cases name with
    | nil => exact named
    | cons c rest => exact mt String.toList_eq_nil_iff.mpr (by simp)

theorem Text.contains_self (text : List Char) : Text.contains text text = true := by
  cases text with
  | nil => rfl
  | cons c rest =>
      rw [contains, List.isPrefixOf_iff_prefix.mpr List.prefix_rfl]
      rfl

/-- A record whose pattern is the host of a URL belongs to it. -/
theorem PageBindings.matchesUrl_of_host {b : PageBindings} {url : String} (named : url ≠ "")
    (host : Url.host url = .ok b.urlPattern) : b.matchesUrl url = .ok true := by
  have filled := Url.host_ne_empty named host
  have own : Text.occursIn b.urlPattern b.urlPattern = true := Text.contains_self _
  rw [matchesUrl, Gleaner.matchesUrl, if_neg filled, host]
  simp [own, bind, Except.bind, pure, Except.pure]

namespace Medium

theorem matching_put {url : String} {record : PageBindings}
    (own : record.matchesUrl url = .ok true) (key : String) {records : Records}
    (others : matching url (Entries.values records) = .ok []) :
    matching url (Entries.values (Entries.put key record records)) = .ok [record] := by
  have alone {rest : List PageBindings} (none : matching url rest = .ok []) :
      matching url (record :: rest) = .ok [record] := by
    rw [matching, own, none]
    rfl
  induction records with
  | nil => exact alone others
  | cons entry rest ih =>
      obtain ⟨belongs, asked, others⟩ := Json.bind_ok others
      obtain ⟨more, none, others⟩ := Json.bind_ok others
      cases belongs with
      | true => cases others
      | false =>
          cases others
          rw [Entries.put]
          split
          · exact alone none
          · show matching url (entry.2 :: Entries.values (Entries.put key record rest)) = _
            rw [matching, asked, ih none]
            rfl

theorem query_eq_none {medium : Medium τ} {now : Float} {url : String} {kept : τ}
    (answered : medium.query now url kept = .ok none) {records : Records}
    (loaded : medium.load now kept = .ok records) :
    matching url (Entries.values records) = .ok [] := by
  obtain ⟨listed, all, answered⟩ := Json.bind_ok answered
  obtain ⟨found, matched, answered⟩ := Json.bind_ok answered
  rw [Medium.all, loaded] at all
  cases all
  cases found with
  | nil => exact matched
  | cons first rest => cases answered

theorem query_put {medium : Medium τ} {now : Float} {url : String} {kept : τ} {record : PageBindings}
    {records : Records} (own : record.matchesUrl url = .ok true)
    (others : matching url (Entries.values records) = .ok []) (key : String)
    (loaded : medium.load now kept = .ok (Entries.put key record records)) :
    medium.query now url kept = .ok (some record) := by
  rw [query, Medium.all, loaded]
  show (matching url (Entries.values (Entries.put key record records)) >>= _) = _
  rw [matching_put own key others]
  rfl

end Medium

/-!
## What is done with a record that an earlier harvest has left
-/

namespace Harvester

variable (harvester : Harvester σ)

/-- The world in which a harvest looks for bindings first. -/
def opened (here : σ) : σ :=
  harvester.told s!"Attempt {1}/{maxAttempts}: acquiring bindings" here

/-- A harvest runs first with a stored record, and the model is not asked for places, unless this
first attempt invites another one. -/
structure Reuses (recipe : Recipe) (record : PageBindings) (here : σ) : Prop where
  takes : harvester.acquire recipe false (harvester.opened here) =
    (do
      harvester.progress s!"Using stored bindings {record.id} v{record.version}"
      return .ok ⟨record, some record.version⟩ : Action σ (Except String Acquired))
      (harvester.opened here)
  first : ∀ model, harvester.advisor.model.SameElsewhere model →
    (harvester.asking model).attempt recipe 1 false here = harvester.attempt recipe 1 false here
  whole : ∀ model, harvester.advisor.model.SameElsewhere model →
    (∀ attempt there, harvester.attempt recipe 1 false here = (.ok attempt, there) →
      attempt.invites = false) →
    (harvester.asking model).harvest recipe false here = harvester.harvest recipe false here

/-- A harvest discovers bindings in the place of a stored record. -/
def Replaces (recipe : Recipe) (record : PageBindings) (here : σ) : Prop :=
  ∃ reason, harvester.acquire recipe false (harvester.opened here) =
    (do
      harvester.progress reason
      harvester.rediscover (harvester.siteUrl recipe (harvester.opened here)) (some record) :
        Action σ (Except String Acquired)) (harvester.opened here)

/-- The record is not too old when a harvest looks for bindings. -/
def Young (record : PageBindings) (here : σ) : Prop :=
  ¬harvester.settings.bindings.maxAgeHours <
    record.ageHours (harvester.clock.time (harvester.opened here))

variable {harvester}

theorem objection_of_young {record : PageBindings} {here : σ} (young : harvester.Young record here) :
    (harvester.objection (harvester.clock.time (harvester.opened here)) record = none ↔
      record.report.isValid = true) := by
  unfold objection
  rw [if_neg young]
  cases record.report.isValid <;> simp

theorem acquire_young {recipe : Recipe} {record : PageBindings} {here : σ}
    (found : harvester.store.query (harvester.siteUrl recipe (harvester.opened here))
      (harvester.opened here) = (.ok (some record), harvester.opened here))
    (young : harvester.Young record here) (valid : record.report.isValid = true) :
    harvester.acquire recipe false (harvester.opened here) =
      (do
        harvester.progress s!"Using stored bindings {record.id} v{record.version}"
        return .ok ⟨record, some record.version⟩ : Action σ (Except String Acquired))
        (harvester.opened here) := by
  rw [acquire_apply, Action.bind_apply, found]
  dsimp only [acquireFrom]
  rw [if_neg Bool.false_ne_true, Action.get_bind_apply, (objection_of_young young).mpr valid]

theorem reuses_of_found {recipe : Recipe} {record : PageBindings} {here : σ}
    (found : harvester.store.query (harvester.siteUrl recipe (harvester.opened here))
      (harvester.opened here) = (.ok (some record), harvester.opened here))
    (young : harvester.Young record here) (valid : record.report.isValid = true) :
    harvester.Reuses recipe record here := by
  have takes := acquire_young found young valid
  have first (model : Model σ) (same : harvester.advisor.model.SameElsewhere model) :
      (harvester.asking model).attempt recipe 1 false here =
        harvester.attempt recipe 1 false here := by
    refine attempt_asking same ?_
    have other := @acquire_young _ (harvester.asking model) _ _ _ found young valid
    exact other.trans takes.symm
  exact ⟨takes, first, fun model same content => harvest_asking (first model same) content⟩

theorem replaces_of_found {recipe : Recipe} {record : PageBindings} {here : σ}
    (found : harvester.store.query (harvester.siteUrl recipe (harvester.opened here))
      (harvester.opened here) = (.ok (some record), harvester.opened here))
    (invalid : record.report.isValid = false) : harvester.Replaces recipe record here := by
  have objects : ∃ reason,
      harvester.objection (harvester.clock.time (harvester.opened here)) record = some reason := by
    unfold objection
    dsimp only
    split
    · exact ⟨_, rfl⟩
    · rw [if_pos (by rw [invalid]; rfl)]
      exact ⟨_, rfl⟩
  obtain ⟨reason, objected⟩ := objects
  refine ⟨reason, ?_⟩
  rw [acquire_apply, Action.bind_apply, found]
  dsimp only [acquireFrom]
  rw [if_neg Bool.false_ne_true, Action.get_bind_apply, objected]

/-!
## A harvest after another one
-/

/-- A record that is read from an answer about the page at a URL. The answer has these fields, and
they give no pattern for URLs. -/
structure FoundAt (url : String) (raw : Fields) (b : PageBindings) : Prop where
  read : ∃ now answer warnings, Advisor.readDiscovery now url answer = .ok (.ok ⟨b, warnings⟩) ∧
    Json.firstObject? answer = some raw
  unnamed : Entries.find? "urlPattern" (Coerce.fields raw) = none

theorem FoundAt.completed {url : String} {raw : Fields} {b : PageBindings}
    (found : FoundAt url raw b) :
    ∃ now, PageBindings.complete now raw url = .ok b ∧ b.Grounded ∧
      Url.host url = .ok b.urlPattern := by
  obtain ⟨now, answer, warnings, read, answered⟩ := found.read
  obtain ⟨fields, given, made, list, listItem⟩ := Advisor.readDiscovery_ok read
  rw [answered] at given
  cases given
  refine ⟨now, made, PageBindings.complete_grounded made list listItem, ?_⟩
  rcases PageBindings.complete_urlPattern made with given | ⟨-, host⟩
  · rw [Complete.given?, found.unnamed] at given
    cases given
  · exact host

theorem runWith_urlPattern {recipe : Recipe} {b record : PageBindings} {here after : σ}
    {result : RunResult} (ran : harvester.runWith recipe b here = (.ok (result, record), after)) :
    record.urlPattern = b.urlPattern := by
  have follows := harvester.ran_follows recipe b here
  rw [runWith_apply] at ran
  rcases ended : harvester.ran recipe b here with ⟨fault | result, session⟩
  · rw [ended] at ran
    cases ran
  · rw [ended] at ran follows
    cases ran
    exact follows.urlPattern

section Twice

variable {medium : Medium τ} {recipe : Recipe} {kept left : τ} {result : RunResult}
  {acquired : Acquired} {record : PageBindings} {url : String}

theorem siteUrl_of_start (starts : recipe.startUrl? = some url) (named : url ≠ "") (here : σ) :
    harvester.siteUrl recipe here = url := by
  unfold siteUrl
  rw [starts, Option.getD_some, if_neg named]

/-- In a store without a record for its site an attempt expects none, and it runs with bindings
that were discovered. -/
theorem Makes.expected (makes : harvester.Makes medium recipe kept (.ran acquired result record))
    (starts : recipe.startUrl? = some url) (named : url ≠ "")
    (new : ∀ now, medium.query now url kept = .ok none) :
    acquired.expected = none ∧ ∃ begun ended,
      (harvester.keeping medium).runWith recipe acquired.bindings begun =
        (.ok (result, record), ended) := by
  cases makes with
  | @ran start begun ended found _ _ _ queried acquires executed =>
      rw [siteUrl_of_start starts named, new] at queried
      cases queried
      cases acquires with
      | discovered discovers => exact ⟨rfl, _, _, executed⟩

/-- The record of a run that succeeded is the one that is found for its site afterwards, if there
was none before. -/
theorem Keeps.query (keeps : Keeps medium kept (.ran acquired result record) left)
    (shipped : medium.Shipped)
    (makes : harvester.Makes medium recipe kept (.ran acquired result record))
    (expected : acquired.expected = none) (fine : result.error = none)
    (new : ∀ now, medium.query now url kept = .ok none)
    (own : record.matchesUrl url = .ok true) (later : Float) :
    medium.query later url left = .ok (some record) := by
  cases keeps with
  | failed failed =>
      have failed : result.error = some _ := failed
      rw [fine] at failed
      cases failed
  | @stale _ _ _ now _ _ _ _ refused =>
      obtain ⟨listed, all, -⟩ := Json.bind_ok (new now)
      obtain ⟨records, loaded, -⟩ := Json.bind_ok all
      rw [Medium.put, loaded, expected] at refused
      cases refused
  | @saved _ _ _ now _ _ accepted =>
      obtain ⟨records, loaded, rfl⟩ := Medium.put_eq_ok accepted
      exact Medium.query_put own (Medium.query_eq_none (new now) loaded) record.id
        (shipped.load_put loaded makes.distinct later)

/-- What a later harvest does with the record that is found for its site. -/
theorem reuses_or_replaces (starts : recipe.startUrl? = some url) (named : url ≠ "")
    (queries : ∀ later, medium.query later url left = .ok (some record))
    (grounded : record.Grounded) {here : σ} (young : harvester.Young record here) :
    (record.showsDetails = true ∧ record.hasButton = true →
      (harvester.keeping medium).Reuses recipe record (here, left)) ∧
    (¬(record.showsDetails = true ∧ record.hasButton = true) →
      (harvester.keeping medium).Replaces recipe record (here, left)) := by
  have found : (harvester.keeping medium).store.query
      ((harvester.keeping medium).siteUrl recipe ((harvester.keeping medium).opened (here, left)))
      ((harvester.keeping medium).opened (here, left)) =
        (.ok (some record), (harvester.keeping medium).opened (here, left)) := by
    rw [siteUrl_of_start starts named]
    exact Prod.ext (queries _) rfl
  constructor
  · intro demands
    exact reuses_of_found found young (PageBindings.isValid_report.mpr ⟨grounded, demands⟩)
  · intro lacking
    refine replaces_of_found found (Bool.eq_false_iff.mpr fun valid => lacking ?_)
    exact (PageBindings.isValid_report.mp valid).2

/-- A harvest that finds no record for its site, discovers bindings on the page at its start URL and
succeeds leaves the record that it ran with, and that is what is found for the site afterwards. A
later harvest for which the record is not too old takes it, and does not ask the model for places
unless its first attempt invites another one, if the record has selectors for details and the
button that its scroll behaviour needs; every other demand is met. Otherwise it discovers bindings
again. The record has the button unless the answer gives a scroll behaviour without its button, and
it has selectors for details if the answer gives some or a panel for them. -/
theorem harvest_reuses (shipped : medium.Shipped) {fresh : Bool} {world : σ} {harvest : Harvest}
    {after : σ}
    (returned : (harvester.keeping medium).harvest recipe fresh (world, kept) =
      (.ok harvest, after, left))
    {tried : List Attempt} {ended : σ × τ}
    (ran : (harvester.keeping medium).tries recipe maxAttempts fresh (world, kept) =
      (.ok tried, ended))
    (last : tried.getLast? = some (.ran acquired result record))
    (succeeded : harvest.success = true) (starts : recipe.startUrl? = some url) (named : url ≠ "")
    (new : ∀ now, medium.query now url kept = .ok none) {raw : Fields}
    (found : FoundAt url raw acquired.bindings) :
    harvest.bindings = some record ∧
      (∀ later, medium.query later url left = .ok (some record)) ∧
      (record.hasButton = true ↔ Complete.GivesButton raw) ∧
      (Complete.GivesDetails raw → record.showsDetails = true) ∧
      ∀ here, harvester.Young record here →
        (record.showsDetails = true ∧ record.hasButton = true →
          (harvester.keeping medium).Reuses recipe record (here, left)) ∧
        (¬(record.showsDetails = true ∧ record.hasButton = true) →
          (harvester.keeping medium).Replaces recipe record (here, left)) := by
  obtain ⟨earlier, _, rfl, -, -, makes, keeps⟩ := tries_spec medium harvester ran
  obtain rfl := Option.some.inj (List.getLast?_concat.symm.trans last)
  have makes := makes _ (List.mem_append_right _ (List.mem_singleton_self _))
  rw [harvest_apply, attempts_eq_tries _ _ _ _ rfl, Action.bind_apply, Action.bind_apply, ran]
    at returned
  have still : left = ended.2 := (finish_framed harvester _ _ _).leaves returned
  rw [← still] at keeps
  obtain ⟨jobs, durationMs, rfl⟩ := finish_spec returned
  -- The report has the outcome and the record of the last attempt.
  rw [List.foldl_append] at succeeded ⊢
  have fine : result.error = none := Option.isNone_iff_eq_none.mp succeeded
  obtain ⟨expected, begun, finished, executed⟩ := makes.expected starts named new
  obtain ⟨now, made, grounded, host⟩ := found.completed
  have own : record.matchesUrl url = .ok true := by
    refine PageBindings.matchesUrl_of_host named ?_
    rw [runWith_urlPattern executed]
    exact host
  have maintains := runWith_maintains executed fine grounded
  have queries := keeps.query shipped makes expected fine new own
  refine ⟨rfl, queries, ?_, fun gives => ?_, fun here young => ?_⟩
  · rw [maintains.button]
    exact PageBindings.complete_hasButton made
  · exact maintains.details ((PageBindings.complete_showsDetails made).mpr gives)
  · exact reuses_or_replaces starts named queries maintains.grounded young

end Twice

end Harvester

namespace Rehearsal

/-- An answer about the page of the list that names nothing else. -/
def bareFields : Fields := [("LIST", .str "#list"), ("LIST_ITEM", .str ".job")]

/-- An answer that names the panel for details as well. -/
def panelFields : Fields :=
  [("LIST", .str "#list"), ("LIST_ITEM", .str ".job"), ("DETAILS_PANEL", .str "#details")]

/-- The page of the list, where the model answers with these fields. -/
def describedPage (fields : Fields) : World := listPage (Json.obj fields).write

/-- Whether a harvest on an empty store goes well, and of the records that it leaves the patterns and
whether they meet every demand. -/
def firstHarvest (fields : Fields) : Option (Bool × List (String × Bool)) :=
  let (harvest, _, left) :=
    (harvester.keeping .memory).harvest openList false (describedPage fields, [])
  harvest.toOption.map fun harvest =>
    (harvest.success, left.map fun entry => (entry.2.urlPattern, entry.2.report.isValid))

/-- Which attempts of that harvest go well. -/
def firstAttempts (fields : Fields) : Option (List Bool) :=
  let (tried, _) :=
    (harvester.keeping .memory).tries openList Harvester.maxAttempts false
      (describedPage fields, [])
  tried.toOption.map fun tried => tried.map fun attempt => attempt.error.isNone

theorem describedPage_snapshot (fields : Fields) (lines : List String) (kept : Records) :
    ∃ snapshot there,
      (harvester.keeping .memory).snapshotOf "https://jobs.example.com"
        ({ describedPage fields with lines }, kept) = (.ok snapshot, there, kept) ∧
      snapshot.url = "https://jobs.example.com" ∧
      there.advice = (describedPage fields).advice :=
  ⟨_, _, rfl, rfl, rfl⟩

theorem inquire_of_advice {world : World} {fields : Fields}
    (queued : world.advice = (describedPage fields).advice) (kept : Records) (prompt : Prompt) :
    ∃ after, (harvester.keeping .memory).advisor.inquire prompt (world, kept) =
        (.ok (.ok (Json.obj fields).write), after) ∧
      after.1.advice.calls.length = 1 := by
  rw [show world = { world with advice := (describedPage fields).advice } by rw [← queued]]
  exact ⟨_, rfl, rfl⟩

/-- On an empty store an attempt runs with what the model answers about the page. -/
theorem describedPage_found {fields : Fields} (keyed : Json.Keyed (.obj fields))
    (unnamed : Entries.find? "urlPattern" (Coerce.fields fields) = none) {number : Nat}
    {after : World × Records} {acquired : Acquired} {result : RunResult} {record : PageBindings}
    (ran : (harvester.keeping .memory).attempt openList number false (describedPage fields, []) =
      (.ok (.ran acquired result record), after)) :
    Harvester.FoundAt "https://jobs.example.com" fields acquired.bindings := by
  obtain ⟨_, told, tells, ran⟩ := Action.bind_ok ran
  cases tells
  obtain ⟨found, there, acquires, ran⟩ := Action.bind_ok ran
  cases found with
  | error reason => cases ran
  | ok found =>
      obtain ⟨_, _, -, ran⟩ := Action.bind_ok ran
      obtain ⟨_, _, -, ran⟩ := Action.bind_ok ran
      cases ran
      let lines := [s!"Attempt {number}/{Harvester.maxAttempts}: acquiring bindings"]
      have acquires : (harvester.keeping .memory).rediscover "https://jobs.example.com" none
          ({ describedPage fields with lines }, []) = (.ok (.ok acquired), there) := acquires
      obtain ⟨snapshot, looked, prompt, text, warnings, looks, inquired, read⟩ :=
        Harvester.rediscover_new acquires
      obtain ⟨_, _, shows, page, advice⟩ := describedPage_snapshot fields lines []
      cases looks.symm.trans shows
      obtain ⟨_, answers, -⟩ := inquire_of_advice advice [] prompt
      cases inquired.symm.trans answers
      rw [page] at read
      exact ⟨⟨_, _, _, read, Json.firstObject?_write keyed⟩, unnamed⟩

theorem describedPage_runs {fields : Fields} (fine : firstAttempts fields = some [true]) :
    ∃ acquired result record made ended,
      (harvester.keeping .memory).attempt openList 1 false (describedPage fields, []) =
        (.ok (.ran acquired result record), made) ∧
      (harvester.keeping .memory).tries openList Harvester.maxAttempts false
        (describedPage fields, []) = (.ok [.ran acquired result record], ended) := by
  unfold firstAttempts at fine
  rcases ran : (harvester.keeping .memory).tries openList Harvester.maxAttempts false
    (describedPage fields, []) with ⟨fault | tried, ended⟩
  · rw [ran] at fine
    cases fine
  rw [ran] at fine
  obtain ⟨only, rfl, went⟩ := List.map_eq_singleton_iff.mp (Option.some.inj fine)
  cases only with
  | refused error => cases went
  | ran acquired result record =>
      have fine : result.error = none := Option.isNone_iff_eq_none.mp went
      obtain ⟨_, made, -, attempted, -, ⟨same, -⟩ | ⟨-, invited, rest, same, -⟩⟩ :=
        Harvester.tries_ok _ ran
      · cases same
        exact ⟨acquired, result, record, made, ended, attempted, rfl⟩
      · cases same
        simp [Attempt.invites, fine] at invited

end Rehearsal

open Rehearsal

/-- The record of a page with a panel for details is used again. -/
theorem Harvester.harvest_reuses_panel :
    ∃ harvest after left record,
      (harvester.keeping .memory).harvest openList false (describedPage panelFields, []) =
        (.ok harvest, after, left) ∧
      harvest.success = true ∧
      (∀ later, Medium.memory.query later "https://jobs.example.com" left = .ok (some record)) ∧
      ∀ here, harvester.Young record here →
        (harvester.keeping .memory).Reuses openList record (here, left) := by
  have harvests : firstHarvest panelFields = some (true, [("jobs.example.com", true)]) := by decide +kernel
  have keyed : Json.Keyed (.obj panelFields) :=
    .obj (by decide) (List.forall_mem_cons.mpr ⟨.str _, List.forall_mem_cons.mpr
      ⟨.str _, List.forall_mem_singleton.mpr (.str _)⟩⟩)
  unfold firstHarvest at harvests
  rcases returned : (harvester.keeping .memory).harvest openList false
    (describedPage panelFields, []) with ⟨fault | harvest, after, left⟩
  · rw [returned] at harvests
    cases harvests
  rw [returned] at harvests
  have succeeded : harvest.success = true := congrArg Prod.fst (Option.some.inj harvests)
  obtain ⟨acquired, result, record, made, ended, attempted, tried⟩ :=
    describedPage_runs (by decide +kernel : firstAttempts panelFields = some [true])
  have found := describedPage_found keyed (by decide +kernel) attempted
  have panel : (Complete.given? "DETAILS_PANEL" (Coerce.fields panelFields)).isSome = true := by
    decide +kernel
  have scroll : Complete.given? "SCROLL_BEHAVIOR" (Coerce.fields panelFields) = none := by
    rfl
  have gives : Complete.GivesButton panelFields := by
    unfold Complete.GivesButton
    rw [scroll]
    exact ⟨nofun, nofun⟩
  obtain ⟨-, queries, button, details, later⟩ :=
    harvest_reuses .memory returned tried rfl succeeded rfl (by decide) (fun _ => rfl) found
  exact ⟨harvest, after, left, record, rfl, succeeded, queries,
    fun here young => (later here young).1 ⟨details (.inr panel), button.mpr gives⟩⟩

/-- What an answer leaves that names no place for details is never used again, although the harvest
that discovered it went well: the next one asks the model once more. -/
theorem Rehearsal.harvest_replaces_bare :
    ∃ harvest after left record,
      (harvester.keeping .memory).harvest openList false (describedPage bareFields, []) =
        (.ok harvest, after, left) ∧
      harvest.success = true ∧
      (∀ later, Medium.memory.query later "https://jobs.example.com" left = .ok (some record)) ∧
      (∀ here, (harvester.keeping .memory).Replaces openList record (here, left)) ∧
      ((harvester.keeping .memory).acquire openList false
        ((harvester.keeping .memory).opened (describedPage bareFields, left))).2.1.advice.calls.length
        = 1 := by
  have harvests : firstHarvest bareFields = some (true, [("jobs.example.com", false)]) := by
    decide +kernel
  unfold firstHarvest at harvests
  rcases returned : (harvester.keeping .memory).harvest openList false
    (describedPage bareFields, []) with ⟨fault | harvest, after, left⟩
  · rw [returned] at harvests
    cases harvests
  rw [returned] at harvests
  obtain ⟨succeeded, records⟩ := Prod.ext_iff.mp (Option.some.inj harvests)
  obtain ⟨⟨id, record⟩, rfl, same⟩ := List.map_eq_singleton_iff.mp records
  obtain ⟨pattern, invalid⟩ := Prod.ext_iff.mp same
  have host : Url.host "https://jobs.example.com" = .ok record.urlPattern := by
    rw [show record.urlPattern = _ from pattern]
    decide +kernel
  have own := PageBindings.matchesUrl_of_host (by decide) host
  have queries (later : Float) :
      Medium.memory.query later "https://jobs.example.com" [(id, record)] = .ok (some record) := by
    have loaded : Medium.memory.load later [(id, record)] = .ok (Entries.put id record []) := rfl
    exact Medium.query_put own rfl id loaded
  have replaces (here : World) :
      (harvester.keeping .memory).Replaces openList record (here, [(id, record)]) :=
    Harvester.replaces_of_found (Prod.ext (queries _) rfl) invalid
  refine ⟨harvest, after, _, record, rfl, succeeded, queries, replaces, ?_⟩
  obtain ⟨reason, acquires⟩ := replaces (describedPage bareFields)
  let lines := [s!"Attempt {1}/{Harvester.maxAttempts}: acquiring bindings", reason]
  have tells : (harvester.keeping .memory).progress reason
      ((harvester.keeping .memory).opened (describedPage bareFields, [(id, record)])) =
        (.ok (), { describedPage bareFields with lines }, [(id, record)]) := rfl
  obtain ⟨_, _, looks, -, advice⟩ := describedPage_snapshot bareFields lines [(id, record)]
  obtain ⟨prompt, -, asks⟩ :=
    @Harvester.rediscover_asks _ _ _ (some record) _ _ _ looks (Nat.zero_le _)
  obtain ⟨_, answers, calls⟩ := inquire_of_advice advice [(id, record)] prompt
  rw [answers] at asks
  rw [acquires, Harvester.siteUrl_of_start rfl (by decide), Action.bind_apply, tells]
  dsimp only
  rw [asks, calls]

end Gleaner
