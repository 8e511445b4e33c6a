import Gleaner.Proofs.Entries
import Gleaner.Proofs.Store.Text

/-!
# What a store answers

A medium is faithful when what it saves is loaded again, whatever the time. Memory is, and so is
a file. Whatever is asked of a faithful medium, its answer and what is kept afterwards are those
of memory with the same records: a file that is not there yet and an empty memory cannot be told
apart by any calls.
-/

set_option autoImplicit false

namespace Gleaner

variable {τ : Type}

/-!
## What can be asked
-/

/-- A call of a store. -/
inductive StoreCall where
  | get (id : String)
  | put (record : PageBindings) (expected : Option Int)
  | all
  | delete (id : String)
  | query (url : String)
  | clearForUrl (url : String)
  | clearAll

inductive StoreAnswer where
  | found (record : Option PageBindings)
  | listed (records : List PageBindings)
  | done
  | removed (removed : Bool)
  | cleared (count : Nat)

/-- The records that a call brings have each name once. -/
def StoreCall.Distinct : StoreCall → Prop
  | .put record _ => record.Distinct
  | _ => True

namespace Medium

/-- The answer to a call at some time and what is kept afterwards. A call has nothing but the
medium and what it keeps, so each could be made through a store of its own. -/
def perform (medium : Medium τ) (now : Float) :
    StoreCall → τ → Except Fault StoreAnswer × τ
  | .get id, kept => ((medium.get now id kept).map .found, kept)
  | .put record expected, kept =>
      match medium.put now record expected kept with
      | .ok changed => (.ok .done, changed)
      | .error fault => (.error fault, kept)
  | .all, kept => ((medium.all now kept).map .listed, kept)
  | .delete id, kept =>
      match medium.delete now id kept with
      | .ok (removed, changed) => (.ok (.removed removed), changed)
      | .error fault => (.error fault, kept)
  | .query url, kept => ((medium.query now url kept).map .found, kept)
  | .clearForUrl url, kept =>
      match medium.clearForUrl now url kept with
      | .ok (count, changed) => (.ok (.cleared count), changed)
      | .error fault => (.error fault, kept)
  | .clearAll, _ => (.ok .done, medium.clear)

/-- The answers to calls, each made at its own time, and what is kept in the end. -/
def performAll (medium : Medium τ) :
    List (Float × StoreCall) → τ → List (Except Fault StoreAnswer) × τ
  | [], kept => ([], kept)
  | (now, call) :: rest, kept =>
      let (answer, changed) := medium.perform now call kept
      let (answers, final) := medium.performAll rest changed
      (answer :: answers, final)

/-- What is kept stands for some records: they are loaded from it at any time. -/
def Holds (medium : Medium τ) (kept : τ) (records : Records) : Prop :=
  ∀ now, medium.load now kept = .ok records

def Faithful (medium : Medium τ) : Prop :=
  ∀ records : Records, records.Sound → medium.Holds (medium.save records) records

theorem memory_faithful : memory.Faithful :=
  fun _ _ _ => rfl

theorem file_faithful : file.Faithful :=
  fun _ sound now => readText_toText now sound.once sound.distinct

end Medium

/-!
## Sound records stay sound
-/

namespace Records.Sound

variable {records : Records}

theorem nil : Records.Sound [] :=
  ⟨List.nodup_nil, List.forall_mem_nil _, List.forall_mem_nil _⟩

theorem put (sound : records.Sound) {record : PageBindings} (distinct : record.Distinct) :
    Records.Sound (Entries.put record.id record records) where
  once := Entries.nodup_put _ _ sound.once
  own entry found := by
    rcases Entries.mem_put found with rfl | kept
    · rfl
    · exact sound.own entry kept
  distinct entry found := by
    rcases Entries.mem_put found with rfl | kept
    · exact distinct
    · exact sound.distinct entry kept

theorem sublist (sound : records.Sound) {part : Records} (among : part.Sublist records) :
    part.Sound where
  once := sound.once.sublist (among.map _)
  own entry found := sound.own entry (among.subset found)
  distinct entry found := sound.distinct entry (among.subset found)

end Records.Sound

/-!
## One call
-/

namespace Medium

section Calls

variable {medium : Medium τ} {kept : τ} {records : Records} {now : Float}
  (loaded : medium.load now kept = .ok records)

include loaded

theorem get_of_load (id : String) :
    medium.get now id kept = .ok (Entries.find? id records) := by
  rw [get, loaded]
  rfl

theorem all_of_load : medium.all now kept = .ok (Entries.values records) := by
  rw [all, loaded]
  rfl

theorem query_of_load (url : String) :
    medium.query now url kept = (matching url (Entries.values records)).map latest := by
  rw [query, all_of_load loaded]
  show (matching url (Entries.values records) >>= fun found => pure (latest found)) = _
  cases matching url (Entries.values records) <;> rfl

/-- A write without a version to compare, or one that names the stored version. -/
theorem put_accepted {record : PageBindings} {expected : Option Int}
    (current : ∀ version stored, expected = some version →
      Entries.find? record.id records = some stored → stored.version = version) :
    medium.put now record expected kept = .ok (medium.save (Entries.put record.id record records)) := by
  rw [put, loaded]
  cases expected with
  | none => rfl
  | some version =>
      simp only [bind, Except.bind]
      cases found : Entries.find? record.id records with
      | none => rfl
      | some stored =>
          have same : ¬stored.version ≠ version := not_not.mpr (current version stored rfl found)
          simp only [if_neg same]
          rfl

theorem put_refused {record stored : PageBindings} {version : Int}
    (found : Entries.find? record.id records = some stored) (stale : stored.version ≠ version) :
    medium.put now record (some version) kept =
      .error (.staleBindings record.id version stored.version) := by
  rw [put, loaded]
  simp only [bind, Except.bind, found, if_pos stale]
  rfl

theorem delete_of_load (id : String) :
    medium.delete now id kept =
      .ok (if records.has id then (true, medium.save (Entries.erase id records))
        else (false, kept)) := by
  rw [delete, loaded]
  show (if records.has id then pure _ else pure _ : Except Fault _) = _
  split <;> rfl

theorem clearForUrl_of_load (url : String) :
    medium.clearForUrl now url kept =
      matching url (Entries.values records) >>= medium.deleteEach now kept := by
  rw [clearForUrl, all_of_load loaded]
  rfl

/-- Deleting records one after the other takes away what is kept under their ids and nothing else,
and counts what it takes away, if every part of what was loaded can be saved. -/
theorem deleteEach_of_load (once : (records.map (·.1)).Nodup)
    (saves : ∀ part : Records, part.Sublist records → medium.Holds (medium.save part) part)
    (doomed : List PageBindings) :
    ∃ count left, medium.deleteEach now kept doomed = .ok (count, left) ∧
      medium.load now left = .ok (records.filter (·.1 ∉ doomed.map (·.id))) ∧
      count + (records.filter (·.1 ∉ doomed.map (·.id))).length = records.length ∧
      (left = kept ∨ medium.Holds left (records.filter (·.1 ∉ doomed.map (·.id)))) := by
  induction doomed generalizing kept records with
  | nil =>
      have all : records.filter (·.1 ∉ ([] : List PageBindings).map (·.id)) = records := by simp
      exact ⟨0, kept, rfl, loaded.trans (by rw [all]), by rw [all, Nat.zero_add], .inl rfl⟩
  | cons record rest ih =>
      have first := delete_of_load loaded record.id
      rw [List.map_cons, ← Entries.filter_erase]
      by_cases there : records.has record.id = true
      · have part : (Entries.erase record.id records).Sublist records := List.filter_sublist
        have erased := saves _ part
        obtain ⟨count, left, ran, final, counted, holds⟩ :=
          ih (erased now) (once.sublist (part.map _)) fun _ among => saves _ (among.trans part)
        rw [if_pos there] at first
        refine ⟨count + 1, left, ?_, final, ?_, .inr ?_⟩
        · rw [deleteEach, first]
          simp only [bind, Except.bind, ran]
          rfl
        · have gone := Entries.length_erase once (Entries.has_iff.mp there)
          omega
        · rcases holds with rfl | holds
          · intro later
            exact (erased later).trans ((erased now).symm.trans final)
          · exact holds
      · have absent := Entries.erase_of_absent (mt Entries.has_iff.mpr there)
        obtain ⟨count, left, ran, further⟩ := ih loaded once saves
        rw [if_neg there] at first
        rw [absent]
        refine ⟨count, left, ?_, further⟩
        rw [deleteEach, first]
        simp only [bind, Except.bind, ran]
        rfl

end Calls

/-!
## Media beside memory
-/

theorem memory_holds (records : Records) : memory.Holds records records :=
  fun _ => rfl

/-- What a call may make of some records can be saved: every part of them, and the records with
another one put among them. -/
structure Reloads (medium : Medium τ) (records : Records) : Prop where
  once : (records.map (·.1)).Nodup
  part : ∀ part : Records, part.Sublist records → medium.Holds (medium.save part) part
  put : ∀ record : PageBindings, record.Distinct →
    medium.Holds (medium.save (Entries.put record.id record records))
      (Entries.put record.id record records)

/-- On what is kept a call does what it does in a memory of some records: it has the same answer,
and it leaves what is kept alone or the records that it leaves in memory are loaded from then on. -/
structure ActsAs (medium : Medium τ) (now past : Float) (kept : τ) (records : Records)
    (call : StoreCall) : Prop where
  answer : (medium.perform now call kept).1 = (memory.perform past call records).1
  leaves : (medium.perform now call kept).2 = kept ∧ (memory.perform past call records).2 = records ∨
    medium.Holds (medium.perform now call kept).2 (memory.perform past call records).2

section Acting

variable {medium : Medium τ} {kept : τ} {records : Records} {now : Float}
  (loaded : medium.load now kept = .ok records) (past : Float)

include loaded

theorem clearForUrl_actsAs (reloads : medium.Reloads records) (url : String) :
    medium.ActsAs now past kept records (.clearForUrl url) := by
  have other := memory_holds records past
  have mine := clearForUrl_of_load loaded url
  have theirs := clearForUrl_of_load other url
  cases matched : matching url (Entries.values records) with
  | error fault =>
      rw [matched] at mine theirs
      have mine : medium.clearForUrl now url kept = .error fault := mine
      have theirs : memory.clearForUrl past url records = .error fault := theirs
      refine ⟨?_, .inl ?_⟩
      · simp only [perform, mine, theirs]
      · simp only [perform, mine, theirs, and_self]
  | ok doomed =>
      rw [matched] at mine theirs
      obtain ⟨count, left, ran, final, counted, holds⟩ :=
        deleteEach_of_load loaded reloads.once reloads.part doomed
      obtain ⟨same, rest, otherRan, otherFinal, otherCounted, -⟩ :=
        deleteEach_of_load other reloads.once (fun part _ => memory_holds part) doomed
      -- Memory is what is loaded of it, and both have lost as many of as many.
      cases otherFinal
      obtain rfl : same = count := by omega
      have mine := mine.trans ran
      have theirs := theirs.trans otherRan
      refine ⟨?_, ?_⟩
      · simp only [perform, mine, theirs]
      · simp only [perform, mine, theirs]
        rcases holds with rfl | holds
        · exact .inl ⟨rfl, Except.ok.inj (final.symm.trans loaded)⟩
        · exact .inr holds

/-- Whatever was loaded, a call acts on it as on the same records in memory. -/
theorem perform_actsAs (reloads : medium.Reloads records) (call : StoreCall)
    (distinct : call.Distinct) : medium.ActsAs now past kept records call := by
  have other := memory_holds records past
  cases call with
  | get id =>
      refine ⟨?_, .inl ⟨rfl, rfl⟩⟩
      simp only [perform, get_of_load loaded, get_of_load other]
  | put record expected =>
      -- Refused is the put that names a version while another one is stored.
      by_cases current : ∀ version stored, expected = some version →
          Entries.find? record.id records = some stored → stored.version = version
      · refine ⟨?_, .inr ?_⟩
        · simp only [perform, put_accepted loaded current, put_accepted other current]
        · simp only [perform, put_accepted loaded current, put_accepted other current]
          exact reloads.put record distinct
      · push Not at current
        obtain ⟨version, stored, rfl, found, stale⟩ := current
        refine ⟨?_, .inl ?_⟩
        · simp only [perform, put_refused loaded found stale, put_refused other found stale]
        · simp only [perform, put_refused loaded found stale, put_refused other found stale, and_self]
  | all =>
      refine ⟨?_, .inl ⟨rfl, rfl⟩⟩
      simp only [perform, all_of_load loaded, all_of_load other]
  | delete id =>
      by_cases there : records.has id = true
      · refine ⟨?_, .inr ?_⟩
        · simp only [perform, delete_of_load loaded, delete_of_load other, if_pos there]
        · simp only [perform, delete_of_load loaded, delete_of_load other, if_pos there]
          exact reloads.part _ List.filter_sublist
      · refine ⟨?_, .inl ?_⟩
        · simp only [perform, delete_of_load loaded, delete_of_load other, if_neg there]
        · simp only [perform, delete_of_load loaded, delete_of_load other, if_neg there, and_self]
  | query url =>
      refine ⟨?_, .inl ⟨rfl, rfl⟩⟩
      simp only [perform, query_of_load loaded, query_of_load other]
  | clearForUrl url => exact clearForUrl_actsAs loaded past reloads url
  | clearAll => exact ⟨rfl, .inr (reloads.part [] (List.nil_sublist records))⟩

end Acting

/-- Sound records in memory stay sound. -/
theorem memory_sound {records : Records} (sound : records.Sound) (past : Float) (call : StoreCall)
    (distinct : call.Distinct) : (memory.perform past call records).2.Sound := by
  have loaded := memory_holds records past
  cases call with
  | get id => exact sound
  | put record expected =>
      by_cases current : ∀ version stored, expected = some version →
          Entries.find? record.id records = some stored → stored.version = version
      · simp only [perform, put_accepted loaded current]
        exact sound.put distinct
      · push Not at current
        obtain ⟨version, stored, rfl, found, stale⟩ := current
        simp only [perform, put_refused loaded found stale]
        exact sound
  | all => exact sound
  | delete id =>
      by_cases there : records.has id = true
      · simp only [perform, delete_of_load loaded, if_pos there]
        exact sound.sublist List.filter_sublist
      · simp only [perform, delete_of_load loaded, if_neg there]
        exact sound
  | query url => exact sound
  | clearForUrl url =>
      have cleared := clearForUrl_of_load loaded url
      cases matched : matching url (Entries.values records) with
      | error fault =>
          rw [matched] at cleared
          have cleared : memory.clearForUrl past url records = .error fault := cleared
          simp only [perform, cleared]
          exact sound
      | ok doomed =>
          obtain ⟨count, left, ran, final, -⟩ :=
            deleteEach_of_load loaded sound.once (fun part _ => memory_holds part) doomed
          cases final
          rw [matched] at cleared
          simp only [perform, cleared.trans ran]
          exact sound.sublist List.filter_sublist
  | clearAll => exact .nil

/-- Some records and what is kept of them by a medium. -/
structure Mirrors (medium : Medium τ) (kept : τ) (records : Records) : Prop where
  holds : medium.Holds kept records
  sound : records.Sound

theorem Mirrors.save {medium : Medium τ} (faithful : medium.Faithful) {records : Records}
    (sound : records.Sound) : medium.Mirrors (medium.save records) records :=
  ⟨faithful records sound, sound⟩

theorem Faithful.reloads {medium : Medium τ} (faithful : medium.Faithful) {records : Records}
    (sound : records.Sound) : medium.Reloads records where
  once := sound.once
  part part among := faithful part (sound.sublist among)
  put _ distinct := faithful _ (sound.put distinct)

/-- A call has the answer that memory gives, and what is kept still mirrors what memory has. -/
theorem perform_mirrors {medium : Medium τ} (faithful : medium.Faithful) {kept : τ}
    {records : Records} (mirrors : medium.Mirrors kept records) (now past : Float)
    (call : StoreCall) (distinct : call.Distinct) :
    ∃ changed, memory.perform past call records = ((medium.perform now call kept).1, changed) ∧
      medium.Mirrors (medium.perform now call kept).2 changed := by
  obtain ⟨answer, leaves⟩ :=
    perform_actsAs (mirrors.holds now) past (faithful.reloads mirrors.sound) call distinct
  refine ⟨(memory.perform past call records).2, Prod.ext answer.symm rfl, ?_,
    memory_sound mirrors.sound past call distinct⟩
  rcases leaves with ⟨same, unchanged⟩ | holds
  · rw [same, unchanged]
    exact mirrors.holds
  · exact holds

/-!
## Any calls
-/

/-- A call with the times at which it is made of the one and of the other store. -/
structure TimedCall where
  call : StoreCall
  now : Float
  past : Float

theorem performAll_mirrors {medium : Medium τ} (faithful : medium.Faithful)
    (calls : List TimedCall) (distinct : ∀ timed ∈ calls, timed.call.Distinct) {kept : τ}
    {records : Records} (mirrors : medium.Mirrors kept records) :
    (medium.performAll (calls.map fun timed => (timed.now, timed.call)) kept).1 =
        (memory.performAll (calls.map fun timed => (timed.past, timed.call)) records).1 ∧
      medium.Mirrors
        (medium.performAll (calls.map fun timed => (timed.now, timed.call)) kept).2
        (memory.performAll (calls.map fun timed => (timed.past, timed.call)) records).2 := by
  induction calls generalizing kept records with
  | nil => exact ⟨rfl, mirrors⟩
  | cons timed rest ih =>
      obtain ⟨first, others⟩ := List.forall_mem_cons.mp distinct
      obtain ⟨changed, answered, further⟩ :=
        perform_mirrors faithful mirrors timed.now timed.past timed.call first
      obtain ⟨answers, final⟩ := ih others further
      simp only [List.map_cons, performAll, answered]
      exact ⟨congrArg _ answers, final⟩

/-- Whatever calls are made, of an empty memory and of a file that is not there yet, each has the
same answer: the same records in the same order, the same truth values and counts, and the same
faults. What the file holds in the end are the records in memory. -/
theorem file_performs_as_memory (calls : List TimedCall)
    (distinct : ∀ timed ∈ calls, timed.call.Distinct) :
    (file.performAll (calls.map fun timed => (timed.now, timed.call)) none).1 =
        (memory.performAll (calls.map fun timed => (timed.past, timed.call)) []).1 ∧
      ∀ later,
        file.load later (file.performAll (calls.map fun timed => (timed.now, timed.call)) none).2 =
          .ok (memory.performAll (calls.map fun timed => (timed.past, timed.call)) []).2 := by
  have empty : file.Mirrors none [] := ⟨fun _ => rfl, .nil⟩
  obtain ⟨answers, final⟩ := performAll_mirrors file_faithful calls distinct empty
  exact ⟨answers, final.holds⟩

/-- A record with one filter, in some version. -/
def dayRecord (version : Int) : PageBindings :=
  { id := "a"
    version
    filters := [("day", { selector := "#day" })]
    updatedAt := 0 }

/-- A record is kept, replaced by its next version, and then deleted; in between, a writer that
still expects the first version is refused. -/
def rewrites : List TimedCall :=
  [⟨.put (dayRecord 1) none, 1, 0⟩, ⟨.put (dayRecord 2) (some 1), 2, 0⟩,
    ⟨.put (dayRecord 7) (some 1), 3, 0⟩, ⟨.get "a", 4, 0⟩, ⟨.delete "a", 5, 0⟩,
    ⟨.delete "a", 6, 0⟩]

theorem file_performs_as_memory_on_rewrites :
    (file.performAll (rewrites.map fun timed => (timed.now, timed.call)) none).1 =
      [.ok .done, .ok .done, .error (.staleBindings "a" 1 2), .ok (.found (some (dayRecord 2))),
        .ok (.removed true), .ok (.removed false)] := by
  have day (version : Int) : (dayRecord version).Distinct :=
    ⟨List.nodup_singleton _, List.nodup_nil⟩
  have distinct : ∀ timed ∈ rewrites, timed.call.Distinct := by
    simp only [rewrites, List.forall_mem_cons]
    exact ⟨day 1, day 2, day 7, trivial, trivial, trivial, List.forall_mem_nil _⟩
  exact (file_performs_as_memory rewrites distinct).1.trans rfl

end Medium

end Gleaner
