import Gleaner.Proofs.Harvest.Isolation
import Gleaner.Proofs.Store.Loading

/-!
# Clearing a site

The records of a URL are found by their patterns and deleted by their ids, one after the other,
while entries are kept under keys. Where a record is kept under its own id this comes to the same:
what belongs to the URL is gone and the rest is as it was. A file that was edited may have a record
under another key: then that record stays, and what is kept under its id goes.
-/

set_option autoImplicit false

namespace Gleaner

variable {τ : Type}

/-!
## What belongs to a URL
-/

/-- Whether a record belongs to a URL; to one that cannot be read none does. -/
def PageBindings.belongsTo (url : String) (b : PageBindings) : Bool :=
  match b.matchesUrl url with
  | .ok belongs => belongs
  | .error _ => false

theorem PageBindings.Retimed.belongsTo {b other : PageBindings} (same : b.Retimed other)
    (url : String) : other.belongsTo url = b.belongsTo url := by
  obtain ⟨time, rfl⟩ := same
  rfl

/-- The ids of the records that belong to a URL. -/
def Records.idsOf (url : String) (records : Records) : List String :=
  ((Entries.values records).filter (·.belongsTo url)).map (·.id)

namespace Medium

theorem matching_eq_filter {url host : String} (parsed : Url.host url = .ok host)
    (records : List PageBindings) :
    matching url records = .ok (records.filter (·.belongsTo url)) := by
  have told (b : PageBindings) : b.matchesUrl url = .ok (b.belongsTo url) := by
    have some : ∃ belongs, b.matchesUrl url = .ok belongs := by
      rw [PageBindings.matchesUrl, matchesUrl, parsed]
      split <;> exact ⟨_, rfl⟩
    obtain ⟨belongs, asked⟩ := some
    rw [PageBindings.belongsTo, asked]
  induction records with
  | nil => rfl
  | cons b rest ih =>
      rw [matching, told, ih, List.filter_cons]
      rfl

/-!
## Deleting by ids
-/

variable {medium : Medium τ} {now : Float} {kept : τ} {records : Records}

/-- What a call makes of what was loaded can be saved. -/
theorem Shipped.reloads (shipped : medium.Shipped) (once : (records.map (·.1)).Nodup)
    (loaded : medium.load now kept = .ok records) : medium.Reloads records where
  once := once
  put record distinct := shipped.load_put loaded fun _ => distinct
  part part among := by
    cases shipped with
    | memory => exact memory_holds part
    | file =>
        obtain ⟨-, distinct⟩ := file_once loaded
        intro later
        exact readText_toText later (once.sublist (among.map _)) fun entry found =>
          distinct entry (among.subset found)

theorem Shipped.retimed (shipped : medium.Shipped) (loaded : medium.load now kept = .ok records)
    (later : Float) :
    ∃ others, medium.load later kept = .ok others ∧
      Entries.Alike PageBindings.Retimed records others := by
  cases shipped with
  | memory =>
      refine ⟨records, loaded, List.forall₂_same.mpr fun entry _ => ⟨rfl, entry.2.updatedAt, rfl⟩⟩
  | file => exact file_retimed loaded later

theorem Shipped.clears (shipped : medium.Shipped) (once : (records.map (·.1)).Nodup)
    (loaded : medium.load now kept = .ok records) {url host : String}
    (parsed : Url.host url = .ok host) :
    ∃ count left, medium.clearForUrl now url kept = .ok (count, left) ∧
      medium.load now left = .ok (records.filter (·.1 ∉ records.idsOf url)) ∧
      count + (records.filter (·.1 ∉ records.idsOf url)).length = records.length ∧
      (left = kept ∨
        ∀ later, medium.load later left = .ok (records.filter (·.1 ∉ records.idsOf url))) := by
  rw [clearForUrl_of_load loaded, matching_eq_filter parsed]
  exact deleteEach_of_load loaded once (shipped.reloads once loaded).part _

/-!
## Records under their own ids
-/

/-- Where the records of a URL are kept under their own ids, the ids tell them from the others. -/
theorem filter_idsOf {url : String} (once : (records.map (·.1)).Nodup)
    (own : ∀ entry ∈ records, entry.2.belongsTo url = true → entry.2.id = entry.1) :
    records.filter (·.1 ∉ records.idsOf url) = records.filter fun entry => !entry.2.belongsTo url := by
  refine List.filter_congr fun entry among => ?_
  have told : entry.1 ∈ records.idsOf url ↔ entry.2.belongsTo url = true := by
    rw [Records.idsOf, Entries.values, List.filter_map, List.map_map, List.mem_map]
    constructor
    · rintro ⟨found, chosen, same⟩
      obtain ⟨there, belongs⟩ := List.mem_filter.mp chosen
      -- The keys are the same, so it is the same entry.
      have key : found.1 = entry.1 := (own found there belongs).symm.trans same
      rw [← List.inj_on_of_nodup_map once there among key]
      exact belongs
    · intro belongs
      exact ⟨entry, List.mem_filter.mpr ⟨among, belongs⟩, own entry among belongs⟩
  cases belongs : entry.2.belongsTo url <;> simp [told, belongs]

theorem query_none {url host : String} (parsed : Url.host url = .ok host)
    (loaded : medium.load now kept = .ok records)
    (foreign : ∀ entry ∈ records, entry.2.belongsTo url = false) :
    medium.query now url kept = .ok none := by
  have nothing : (Entries.values records).filter (·.belongsTo url) = [] := by
    refine List.filter_eq_nil_iff.mpr fun b among => ?_
    obtain ⟨entry, there, rfl⟩ := List.mem_map.mp among
    rw [foreign entry there]
    exact Bool.false_ne_true
  rw [query_of_load loaded, matching_eq_filter parsed, nothing]
  rfl

/-- Clearing a URL takes away what is kept under the ids of its records, and counts it; what stays
is there at any later time as it was. If the records of the URL are kept under their own ids, as
they are by every store that was filled by putting, then those that go are those that belong to
the URL: the others stay, in their order, and no later query finds a record for the URL. -/
theorem clearForUrl_clears (shipped : medium.Shipped) (once : (records.map (·.1)).Nodup)
    (loaded : medium.load now kept = .ok records) {url host : String}
    (parsed : Url.host url = .ok host) :
    ∃ count left, medium.clearForUrl now url kept = .ok (count, left) ∧
      medium.load now left = .ok (records.filter (·.1 ∉ records.idsOf url)) ∧
      count + (records.filter (·.1 ∉ records.idsOf url)).length = records.length ∧
      (left = kept ∨
        ∀ later, medium.load later left = .ok (records.filter (·.1 ∉ records.idsOf url))) ∧
      ((∀ entry ∈ records, entry.2.belongsTo url = true → entry.2.id = entry.1) →
        records.filter (·.1 ∉ records.idsOf url) =
            records.filter (fun entry => !entry.2.belongsTo url) ∧
          count = records.countP (fun entry => entry.2.belongsTo url) ∧
          ∀ later, medium.query later url left = .ok none) := by
  obtain ⟨count, left, cleared, final, counted, later⟩ := shipped.clears once loaded parsed
  refine ⟨count, left, cleared, final, counted, later, fun own => ?_⟩
  have stay := filter_idsOf once own
  refine ⟨stay, ?_, fun later => ?_⟩
  · have all := List.length_eq_countP_add_countP (fun entry => entry.2.belongsTo url) (l := records)
    rw [stay, ← List.countP_eq_length_filter] at counted
    have same : records.countP (fun entry => !entry.2.belongsTo url) =
        records.countP fun entry => ¬entry.2.belongsTo url = true :=
      List.countP_congr fun entry _ => by simp
    omega
  · rw [stay] at final
    obtain ⟨others, again, alike⟩ := shipped.retimed final later
    refine query_none parsed again fun other among => ?_
    obtain ⟨entry, there, same⟩ := alike.exists_left among
    rw [same.belongsTo]
    simpa using (List.mem_filter.mp there).2

/-!
## A file with two sites
-/

open Rehearsal

theorem belongs_jobs :
    Url.host "https://jobs.example.com" = .ok "jobs.example.com" ∧
      ownSite.belongsTo "https://jobs.example.com" = true ∧
      otherSite.belongsTo "https://jobs.example.com" = false := by
  decide +kernel

theorem load_toText (now : Float) {records : Records} (once : (records.map (·.1)).Nodup)
    (distinct : ∀ entry ∈ records, entry.2.Distinct) :
    file.load now (some (toText records)) = .ok records :=
  readText_toText now once distinct

theorem clearForUrl_clears_bothSites :
    ∃ left, file.clearForUrl 0 "https://jobs.example.com" (some (toText bothSites)) =
        .ok (1, left) ∧
      file.load 0 left = .ok [("other", otherSite)] ∧
      ∀ later, file.query later "https://jobs.example.com" left = .ok none := by
  obtain ⟨parsed, belongs, foreign⟩ := belongs_jobs
  have once : (bothSites.map (·.1)).Nodup := by decide
  have distinct : ∀ entry ∈ bothSites, entry.2.Distinct := by
    simp only [bothSites, List.forall_mem_cons]
    exact ⟨⟨.nil, .nil⟩, ⟨.nil, .nil⟩, List.forall_mem_nil _⟩
  have loaded := load_toText 0 once distinct
  have own : ∀ entry ∈ bothSites,
      entry.2.belongsTo "https://jobs.example.com" = true → entry.2.id = entry.1 := by
    simp only [bothSites, List.forall_mem_cons]
    exact ⟨fun _ => rfl, fun _ => rfl, List.forall_mem_nil _⟩
  obtain ⟨count, left, cleared, final, -, -, clear⟩ := clearForUrl_clears .file once loaded parsed
  obtain ⟨stay, counted, none⟩ := clear own
  have one : count = 1 := by simp [counted, bothSites, belongs, foreign]
  subst one
  refine ⟨left, cleared, final.trans (congrArg Except.ok (stay.trans ?_)), none⟩
  simp [bothSites, belongs, foreign]

/-- A record of the site under a key of its own, with the id of the record of another site. -/
def misfiled : Records :=
  [("own", { ownSite with id := "other" }), ("other", otherSite)]

/-- The record of the site is still found after the site was cleared, and the record of the other
site is gone. -/
theorem clearForUrl_misses :
    ∃ left, file.clearForUrl 0 "https://jobs.example.com" (some (toText misfiled)) =
        .ok (1, left) ∧
      (∀ later, file.load later left = .ok [("own", { ownSite with id := "other" })]) ∧
      ∀ later, file.query later "https://jobs.example.com" left =
        .ok (some { ownSite with id := "other" }) := by
  obtain ⟨parsed, belongs, foreign⟩ := belongs_jobs
  have still : PageBindings.belongsTo "https://jobs.example.com" { ownSite with id := "other" } =
      true := belongs
  have once : (misfiled.map (·.1)).Nodup := by decide
  have distinct : ∀ entry ∈ misfiled, entry.2.Distinct := by
    simp only [misfiled, List.forall_mem_cons]
    exact ⟨⟨.nil, .nil⟩, ⟨.nil, .nil⟩, List.forall_mem_nil _⟩
  have loaded := load_toText 0 once distinct
  have ids : misfiled.idsOf "https://jobs.example.com" = ["other"] := by
    simp [Records.idsOf, misfiled, Entries.values, still, foreign]
  have stay : misfiled.filter (·.1 ∉ misfiled.idsOf "https://jobs.example.com") =
      [("own", { ownSite with id := "other" })] := by
    rw [ids]
    simp [misfiled]
  obtain ⟨count, left, cleared, final, counted, later⟩ := Shipped.clears .file once loaded parsed
  rw [stay] at final counted later
  have one : count = 1 := Nat.add_right_cancel counted
  subst one
  have loads : ∀ later, file.load later left = .ok [("own", { ownSite with id := "other" })] := by
    rcases later with rfl | later
    · have same := congrArg (·.toOption.map List.length) (loaded.symm.trans final)
      cases same
    · exact later
  refine ⟨left, cleared, loads, fun later => ?_⟩
  rw [query_of_load (loads later), matching_eq_filter parsed]
  simp [Entries.values, still]
  rfl

end Medium

end Gleaner
