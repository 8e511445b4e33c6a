import Gleaner.Proofs.Advisor.Discovery
import Gleaner.Proofs.Harvest.Effect

/-!
# What a harvest leaves alone

A harvest writes one record at most, whether it returns or faults, and it takes the id of that
record from the one that it found for its site. When it found none, the id comes from the answer
of the model, or from the clock, and nothing compares it with the ids in the store: then the
record of another site can be the one that is overwritten.
-/

set_option autoImplicit false

namespace Gleaner

variable {σ τ : Type}

/-- A sequence of actions ends with the fault of the first, or with whatever the rest comes to. -/
theorem Action.bind_cases {α β : Type} {action : Action σ α} {next : α → Action σ β}
    {world final : σ} {answer : Except Fault β} (ran : (action >>= next) world = (answer, final)) :
    (∃ fault, action world = (.error fault, final)) ∨
      ∃ value after, action world = (.ok value, after) ∧ next value after = (answer, final) := by
  rw [bind_apply] at ran
  rcases first : action world with ⟨fault | value, after⟩
  · rw [first] at ran
    cases ran
    exact .inl ⟨fault, rfl⟩
  · rw [first] at ran
    exact .inr ⟨value, after, rfl, ran⟩

/-!
## What belongs to a URL
-/

namespace Medium

theorem matches_of_matching {url : String} {records found : List PageBindings}
    (matched : matching url records = .ok found) :
    ∀ record ∈ found, record.matchesUrl url = .ok true := by
  induction records generalizing found with
  | nil =>
      cases matched
      exact List.forall_mem_nil _
  | cons first rest ih =>
      obtain ⟨belongs, asked, matched⟩ := Json.bind_ok matched
      obtain ⟨more, others, matched⟩ := Json.bind_ok matched
      cases matched
      cases belongs with
      | true =>
          have own : first.matchesUrl url = .ok true := mapError_eq_ok.mp asked
          exact List.forall_mem_cons.mpr ⟨own, ih others⟩
      | false => exact ih others

theorem query_matches {medium : Medium τ} {now : Float} {url : String} {kept : τ}
    {record : PageBindings} (answered : medium.query now url kept = .ok (some record)) :
    record.matchesUrl url = .ok true := by
  obtain ⟨listed, -, answered⟩ := Json.bind_ok answered
  obtain ⟨found, matched, answered⟩ := Json.bind_ok answered
  exact matches_of_matching matched record (latest_mem (Except.ok.inj answered))

end Medium

/-- A record that does not belong to the empty URL has no pattern, and belongs to none. -/
theorem PageBindings.matchesUrl_of_empty {b : PageBindings}
    (foreign : b.matchesUrl "" ≠ .ok true) (url : String) : b.matchesUrl url ≠ .ok true := by
  have unnamed : b.urlPattern = "" := by
    by_contra named
    apply foreign
    have host : Url.host "" = .ok "" := by decide +kernel
    have anywhere (text : String) : Text.occursIn "" text = true := by
      unfold Text.occursIn
      cases text.toList <;> rfl
    rw [PageBindings.matchesUrl, Gleaner.matchesUrl, if_neg named, host]
    simp [anywhere, bind, Except.bind, pure, Except.pure]
  rw [PageBindings.matchesUrl, Gleaner.matchesUrl, if_pos unnamed]
  nofun

/-!
## What is written
-/

namespace Harvester

variable (medium : Medium τ) (harvester : Harvester σ)

theorem attempt_leaves {recipe : Recipe} {number : Nat} {fresh : Bool} {here after : σ × τ}
    {answer : Except Fault Attempt}
    (ran : (harvester.keeping medium).attempt recipe number fresh here = (answer, after)) :
    after.2 = here.2 := by
  rcases Action.bind_cases ran with ⟨fault, tells⟩ | ⟨_, told, tells, ran⟩
  · exact (Action.Framed.beside _).leaves tells
  have quiet : told.2 = here.2 := (Action.Framed.beside _).leaves tells
  rcases Action.bind_cases ran with ⟨fault, acquires⟩ | ⟨acquired, found, acquires, ran⟩
  · exact (harvester.acquire_leaves medium acquires).trans quiet
  have looked : found.2 = told.2 := harvester.acquire_leaves medium acquires
  cases acquired with
  | error reason =>
      cases ran
      exact looked.trans quiet
  | ok acquired =>
      rcases Action.bind_cases ran with ⟨fault, tells⟩ | ⟨_, begun, tells, ran⟩
      · exact (Action.Framed.leaves (.beside _) tells).trans (looked.trans quiet)
      have silent : begun.2 = found.2 := (Action.Framed.beside _).leaves tells
      have executes := runWith_framed harvester
        (harvester.keeping medium).store recipe acquired.bindings
      rcases Action.bind_cases ran with ⟨fault, executed⟩ | ⟨_, ended, executed, ran⟩
      · exact (executes.leaves executed).trans (silent.trans (looked.trans quiet))
      · cases ran
        exact (executes.leaves executed).trans (silent.trans (looked.trans quiet))

/-- Saving leaves what is kept, or it puts the record. -/
theorem saveBindings_writes {record : PageBindings} {expected : Option Int} {here after : σ × τ}
    {answer : Except Fault Unit}
    (ran : (harvester.keeping medium).saveBindings record expected here = (answer, after)) :
    after.2 = here.2 ∨ ∃ now, medium.put now record expected here.2 = .ok after.2 := by
  have told (saved : Bool) : Action.Framed (L := τ)
      (if saved then ((harvester.progress s!"Saved bindings {record.id} v{record.version}").beside)
        else pure ()) (if saved then _ else pure ()) := .ite (.beside _) (.pure ())
  unfold saveBindings at ran
  rcases answered : medium.put (harvester.clock.time here.1) record expected here.2 with
    fault | changed
  · have put := keeping_put_error medium harvester answered
    rcases Action.bind_cases ran with ⟨raised, tried⟩ | ⟨saved, there, tried, ran⟩
    · rw [Action.tryCatch_apply, Action.bind_apply, put] at tried
      cases fault <;> cases tried <;> exact .inl rfl
    · rw [Action.tryCatch_apply, Action.bind_apply, put] at tried
      cases fault with
      | staleBindings id version stored =>
          cases tried
          exact .inl ((told false).leaves ran)
      | _ => cases tried
  · have put := keeping_put_ok medium harvester answered
    rcases Action.bind_cases ran with ⟨raised, tried⟩ | ⟨saved, there, tried, ran⟩
    · rw [Action.tryCatch_apply, Action.bind_apply, put] at tried
      cases tried
    · rw [Action.tryCatch_apply, Action.bind_apply, put] at tried
      cases tried
      exact .inr ⟨_, answered.trans (congrArg Except.ok ((told true).leaves ran).symm)⟩

/-- What comes after an attempt leaves what is kept, or puts the record that the attempt ran with,
and that only if the run went well. -/
theorem conclude_writes {again : Bool} {attempt : Attempt} {here after : σ × τ}
    {answer : Except Fault Unit}
    (ran : (harvester.keeping medium).conclude again attempt here = (answer, after)) :
    after.2 = here.2 ∨ attempt.error = none ∧
      ∃ acquired result record now, attempt = .ran acquired result record ∧
        medium.put now record acquired.expected here.2 = .ok after.2 := by
  cases failed : attempt.error with
  | some error => exact .inl ((harvester.conclude_framed _ again failed).leaves ran)
  | none =>
      cases attempt with
      | refused error => cases failed
      | ran acquired result record =>
          have fine : result.error = none := failed
          simp only [conclude, fine] at ran
          rcases Action.bind_cases ran with ⟨fault, tells⟩ | ⟨_, told, tells, ran⟩
          · exact .inl ((Action.Framed.beside _).leaves tells)
          have quiet : told.2 = here.2 := (Action.Framed.beside _).leaves tells
          rcases harvester.saveBindings_writes medium ran with left | ⟨now, put⟩
          · exact .inl (left.trans quiet)
          · rw [quiet] at put
            exact .inr ⟨rfl, acquired, result, record, now, rfl, put⟩

/-- What is kept is left, or one record is put: one that a run of the recipe made. -/
def Writes (recipe : Recipe) (kept left : τ) : Prop :=
  left = kept ∨ ∃ acquired result record now,
    harvester.Makes medium recipe kept (.ran acquired result record) ∧
      medium.put now record acquired.expected kept = .ok left

theorem tries_writes {recipe : Recipe} {more : Nat} {fresh : Bool} {here after : σ × τ}
    {answer : Except Fault (List Attempt)}
    (ran : (harvester.keeping medium).tries recipe more fresh here = (answer, after)) :
    harvester.Writes medium recipe here.2 after.2 := by
  induction more generalizing fresh here answer with
  | zero =>
      cases ran
      exact .inl rfl
  | succ more ih =>
      rcases Action.bind_cases ran with ⟨fault, attempted⟩ | ⟨attempt, made, attempted, ran⟩
      · exact .inl (harvester.attempt_leaves medium attempted)
      obtain ⟨makes, quiet⟩ := harvester.attempt_spec medium attempted
      have written {told : σ × τ} {concluded : Except Fault Unit}
          (concludes : (harvester.keeping medium).conclude (more ≠ 0 && attempt.invites) attempt
            made = (concluded, told)) :
          told.2 = here.2 ∨ attempt.invites = false ∧
            harvester.Writes medium recipe here.2 told.2 := by
        rw [← quiet]
        rcases harvester.conclude_writes medium concludes with
          left | ⟨fine, acquired, result, record, now, rfl, put⟩
        · exact .inl left
        · rw [← quiet] at makes
          have ended : result.error = none := fine
          exact .inr ⟨by simp [Attempt.invites, ended], .inr ⟨_, _, _, _, makes, put⟩⟩
      rcases Action.bind_cases ran with ⟨fault, concludes⟩ | ⟨_, told, concludes, ran⟩
      · rcases written concludes with left | ⟨-, writes⟩
        · exact .inl left
        · exact writes
      split at ran
      next again =>
        have invited : attempt.invites = true := (Bool.and_eq_true_iff.mp again).2
        have left : told.2 = here.2 := by
          rcases written concludes with left | ⟨uninvited, -⟩
          · exact left
          · rw [invited] at uninvited
            cases uninvited
        rw [← left]
        rcases Action.bind_cases ran with ⟨fault, further⟩ | ⟨rest, final, further, ran⟩
        · exact ih further
        · cases ran
          exact ih further
      next =>
        cases ran
        rcases written concludes with left | ⟨-, writes⟩
        · exact .inl left
        · exact writes

theorem harvest_writes {recipe : Recipe} {fresh : Bool} {here after : σ × τ}
    {answer : Except Fault Harvest}
    (returned : (harvester.keeping medium).harvest recipe fresh here = (answer, after)) :
    harvester.Writes medium recipe here.2 after.2 := by
  rw [harvest_apply, attempts_eq_tries _ _ _ _ rfl] at returned
  have gathered {looped : Except Fault Harvest} {ended : σ × τ}
      (ran : ((harvester.keeping medium).tries recipe maxAttempts fresh >>= fun tried =>
        pure (tried.foldl Harvest.tally {})) here = (looped, ended)) :
      harvester.Writes medium recipe here.2 ended.2 := by
    rcases Action.bind_cases ran with ⟨fault, tried⟩ | ⟨tried, last, ran, looped⟩
    · exact harvester.tries_writes medium tried
    · cases looped
      exact harvester.tries_writes medium ran
  rcases Action.bind_cases returned with ⟨fault, looped⟩ | ⟨report, ended, looped, finishes⟩
  · exact gathered looped
  · rw [(finish_framed harvester _ _ _).leaves finishes]
    exact gathered looped

/-!
## The records of other sites
-/

/-- The model has answered with an object that gives this id. -/
def Names (id : String) : Prop :=
  ∃ prompt world answer raw, (harvester.advisor.inquire prompt world).1 = .ok (.ok answer) ∧
    Json.firstObject? answer = some raw ∧ Entries.find? "id" (Coerce.fields raw) = some (.str id)

/-- How a harvest can come to write under the id of a record that does not belong to its site. -/
inductive Usurps (recipe : Recipe) (kept : τ) (id : String) : Prop where
  /-- A record that does belong to the site has the id, but is kept under another key. -/
  | misfiled {now : Float} {site : σ} {records : Records} {loaded : PageBindings} :
      medium.load now kept = .ok records → loaded ∈ Entries.values records →
      loaded.matchesUrl (harvester.siteUrl recipe site) = .ok true → loaded.id = id →
      Entries.find? id records ≠ some loaded → Usurps recipe kept id
  /-- No record belongs to the site, and the model has named the id. -/
  | named {now : Float} {site : σ} :
      medium.query now (harvester.siteUrl recipe site) kept = .ok none → harvester.Names id →
      Usurps recipe kept id
  /-- No record belongs to the site, and the id is made from the time. -/
  | stamped {now stamp : Float} {site : σ} :
      medium.query now (harvester.siteUrl recipe site) kept = .ok none →
      id = timedId "bindings" stamp → Usurps recipe kept id

variable {harvester} in
theorem Discovers.id {b : PageBindings} (discovers : harvester.Discovers b) :
    harvester.Names b.id ∨ ∃ stamp, b.id = timedId "bindings" stamp := by
  obtain ⟨snapshot, world, found, asked, rfl⟩ := discovers
  obtain ⟨page, prompt, answer, -, inquired, read⟩ := Advisor.discover_ok (Prod.ext asked rfl)
  obtain ⟨raw, given, made, -⟩ := Advisor.readDiscovery_ok read
  rcases PageBindings.complete_id made with named | ⟨-, stamped⟩
  · exact .inl ⟨prompt, world, answer, raw, congrArg Prod.fst inquired, given,
      (Complete.given?_eq_some named).1⟩
  · exact .inr ⟨_, stamped⟩

variable {harvester} in
theorem Discovers.plain {L : Type} {store : Store (σ × L)} {b : PageBindings}
    (discovers : (harvester.beside store).Discovers b) : harvester.Discovers b := by
  obtain ⟨snapshot, ⟨world, kept⟩, found, asked, same⟩ := discovers
  have framed := Advisor.discover_framed harvester.advisor snapshot world kept
  exact ⟨snapshot, world, found, (congrArg Prod.fst framed).symm.trans asked, same⟩

variable {medium harvester} in
/-- A run with a record that was found for the site, or that nothing in the store belongs to,
writes under the id of another site's record only by one of the ways to usurp it. -/
theorem Makes.usurps {recipe : Recipe} {kept : τ} {acquired : Acquired} {result : RunResult}
    {record : PageBindings} (makes : harvester.Makes medium recipe kept (.ran acquired result record))
    (foreign : ∀ now stored (site : σ), medium.get now record.id kept = .ok (some stored) →
      stored.matchesUrl (harvester.siteUrl recipe site) ≠ .ok true) :
    harvester.Usurps medium recipe kept record.id := by
  cases makes with
  | @ran start begun ended found _ _ _ queried acquires executed =>
      have asked : medium.query (harvester.clock.time start.1)
          (harvester.siteUrl recipe start.1) kept = .ok found := queried
      have own : record.id = acquired.bindings.id :=
        ((harvester.keeping medium).runWith_follows executed).1
      have misfiled {loaded : PageBindings} (stored : found = some loaded)
          (same : record.id = loaded.id) : harvester.Usurps medium recipe kept record.id := by
        rw [stored] at asked
        obtain ⟨records, loads, entry, there, rfl⟩ := Medium.query_eq_some asked
        have belongs := Medium.query_matches asked
        refine .misfiled loads (List.mem_map_of_mem there) belongs same.symm fun filed => ?_
        have got : medium.get (harvester.clock.time start.1) record.id kept =
            .ok (some entry.2) := by
          rw [Medium.get, loads]
          exact congrArg Except.ok filed
        exact foreign _ _ _ got belongs
      cases acquires with
      | stored loaded => exact misfiled rfl own
      | rediscovered loaded discovers => exact misfiled rfl own
      | discovered discovers =>
          rw [own]
          rcases discovers.plain.id with named | ⟨stamp, stamped⟩
          · exact .named asked named
          · exact .stamped asked stamped

variable {medium harvester} in
/-- A record that does not belong to the site of a harvest is there afterwards as it was before,
whether the harvest returns or faults, unless the harvest usurps its id. -/
theorem harvest_spares (shipped : medium.Shipped) {recipe : Recipe} {fresh : Bool} {world : σ}
    {kept left : τ} {answer : Except Fault Harvest} {after : σ}
    (returned : (harvester.keeping medium).harvest recipe fresh (world, kept) =
      (answer, after, left))
    {url id : String} (starts : recipe.startUrl? = some url)
    (foreign : ∀ now stored, medium.get now id kept = .ok (some stored) →
      stored.matchesUrl url ≠ .ok true) :
    left = kept ∨ (∃ now, ∀ later, medium.get later id left = medium.get now id kept) ∨
      harvester.Usurps medium recipe kept id := by
  rcases harvester.harvest_writes medium returned with
    untouched | ⟨acquired, result, record, now, makes, put⟩
  · exact .inl untouched
  right
  obtain ⟨records, loaded, written⟩ := Medium.put_eq_ok put
  by_cases same : record.id = id
  · subst same
    refine .inr (makes.usurps fun now stored site got => ?_)
    unfold siteUrl
    rw [starts]
    by_cases empty : url = ""
    · subst empty
      exact PageBindings.matchesUrl_of_empty (foreign now stored got) _
    · simpa only [Option.getD_some, if_neg empty] using foreign now stored got
  · refine .inl ⟨now, fun later => ?_⟩
    have loads := shipped.load_put loaded makes.distinct later
    rw [show left = _ from written, Medium.get, Medium.get, loaded, loads]
    show Except.ok (Entries.find? id (Entries.put record.id record records)) = _
    rw [Entries.find?_put, if_neg same]
    rfl

end Harvester

namespace Rehearsal

/-- A page with a list, and a model that gives one answer. -/
def listPage (answer : String) : World :=
  { stage := { selectors := [("#list", 1)] }
    advice := { answers := [.ok (ScriptedModel.reply answer (.int 0))] } }

def openList : Recipe :=
  { id := "listing", commands := [.openPage "https://jobs.example.com", .goTo "list"] }

def ownSite : PageBindings :=
  { id := "own", urlPattern := "jobs.example.com", updatedAt := 0 }

def otherSite : PageBindings :=
  { id := "other", urlPattern := "other.org", version := 3, updatedAt := 0 }

def bothSites : Records :=
  [("own", ownSite), ("other", otherSite)]

/-- The ids, patterns and versions of the records that a harvest leaves. -/
def leftBehind (answer : String) (kept : Records) : Option (List (String × String × Int)) :=
  let (harvest, _, left) :=
    (harvester.keeping .memory).harvest openList true (listPage answer, kept)
  harvest.toOption.map fun _ =>
    left.map fun entry => (entry.1, entry.2.urlPattern, entry.2.version)

theorem matching_bothSites {now : Float} {site : World} :
    Medium.memory.query now (harvester.siteUrl openList site) bothSites ≠ .ok none := by
  have belongs : (Medium.matching "https://jobs.example.com" [ownSite, otherSite]).toOption.map
      (·.isEmpty) = some false := by decide +kernel
  intro none
  obtain ⟨listed, all, none⟩ := Json.bind_ok none
  cases all
  obtain ⟨found, matched, none⟩ := Json.bind_ok none
  rw [show Medium.matching "https://jobs.example.com" [ownSite, otherSite] = .ok found from
    matched] at belongs
  cases found with
  | nil => cases belongs
  | cons first rest => cases none

end Rehearsal

open Rehearsal

/-- The record of the site itself is replaced, and the other one stays. -/
theorem Harvester.harvest_spares_otherSite :
    ∃ answer after left,
      (harvester.keeping .memory).harvest openList true
        (listPage "\x7b\"LIST\": \"#list\", \"LIST_ITEM\": \".job\"\x7d", bothSites) =
        (answer, after, left) ∧
      otherSite.matchesUrl "https://jobs.example.com" ≠ .ok true ∧
      Entries.find? "other" left = some otherSite := by
  have foreign : otherSite.matchesUrl "https://jobs.example.com" ≠ .ok true := by decide +kernel
  rcases returned : (harvester.keeping .memory).harvest openList true
    (listPage "\x7b\"LIST\": \"#list\", \"LIST_ITEM\": \".job\"\x7d", bothSites) with
    ⟨answer, after, left⟩
  refine ⟨answer, after, left, rfl, foreign, ?_⟩
  have kept (now : Float) (stored : PageBindings)
      (got : Medium.memory.get now "other" bothSites = .ok (some stored)) :
      stored.matchesUrl "https://jobs.example.com" ≠ .ok true := by
    cases got
    exact foreign
  rcases harvest_spares .memory returned rfl kept with same | ⟨now, same⟩ | usurps
  · rw [same]
    rfl
  · exact Except.ok.inj (same 0)
  · cases usurps with
    | misfiled loads there belongs same unfiled =>
        cases loads
        rcases List.mem_cons.mp there with rfl | other
        · exact absurd same (by decide)
        · rw [List.mem_singleton.mp other] at unfiled
          exact absurd rfl unfiled
    | named none => exact absurd none matching_bothSites
    | stamped none => exact absurd none matching_bothSites

/-- With no record for its site, a harvest overwrites that of another one whose id the model
names. -/
theorem Rehearsal.harvest_overwrites_otherSite :
    openList.startUrl? = some "https://jobs.example.com" ∧
      otherSite.matchesUrl "https://jobs.example.com" ≠ .ok true ∧
      leftBehind "\x7b\"id\": \"other\", \"LIST\": \"#list\", \"LIST_ITEM\": \".job\"\x7d"
        [("other", otherSite)] = some [("other", "jobs.example.com", 1)] :=
  ⟨rfl, by decide +kernel, by decide +kernel⟩

end Gleaner
