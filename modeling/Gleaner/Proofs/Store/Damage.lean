import Gleaner.Proofs.Store.Clearing

/-!
# Damaged files

A file may have any text. One that is no object holds no records, and of an object that has an
object for every entry the entries that are records are loaded: on these every call acts as in
memory. An entry that stands for no fields, such as a number, is not passed over: it breaks every
call but the one that clears the file.
-/

set_option autoImplicit false

namespace Gleaner

variable {τ : Type}

namespace Medium

/-!
## What a call is refused for
-/

variable {medium : Medium τ} {now : Float} {kept : τ} {records : Records}

/-- What cannot be loaded can only be cleared. -/
theorem perform_of_fault {fault : Fault} (refused : medium.load now kept = .error fault)
    (call : StoreCall) (asks : call ≠ .clearAll) :
    medium.perform now call kept = (.error fault, kept) := by
  have listed : medium.all now kept = .error fault := by
    rw [Medium.all, refused]
    rfl
  cases call with
  | get id =>
      rw [perform, get, refused]
      rfl
  | put record expected =>
      rw [perform, put, refused]
      rfl
  | all =>
      rw [perform, listed]
      rfl
  | delete id =>
      rw [perform, delete, refused]
      rfl
  | query url =>
      rw [perform, query, listed]
      rfl
  | clearForUrl url =>
      rw [perform, clearForUrl, listed]
      rfl
  | clearAll => exact absurd rfl asks

/-- A put into what was loaded is refused for its version only. -/
theorem put_eq_error (loaded : medium.load now kept = .ok records) {record : PageBindings}
    {expected : Option Int} {fault : Fault}
    (refused : medium.put now record expected kept = .error fault) :
    ∃ version stored, expected = some version ∧ Entries.find? record.id records = some stored ∧
      stored.version ≠ version ∧ fault = .staleBindings record.id version stored.version := by
  by_cases current : ∀ version stored, expected = some version →
      Entries.find? record.id records = some stored → stored.version = version
  · cases refused.symm.trans (put_accepted loaded current)
  · push Not at current
    obtain ⟨version, stored, rfl, found, stale⟩ := current
    cases refused.symm.trans (put_refused loaded found stale)
    exact ⟨version, stored, rfl, found, stale, rfl⟩

/-!
## Any text
-/

/-- The entries that are objects and make records, in their order. -/
def recordsAmong (now : Float) (fields : Fields) : Records :=
  fields.filterMap fun field =>
    match field.2 with
    | .obj inner => (PageBindings.ofFieldsOrFault now inner).toOption.map (field.1, ·)
    | _ => none

theorem readEntries_objects {fields : Fields}
    (objects : ∀ field ∈ fields, ∃ inner, field.2 = .obj inner) :
    readEntries now fields = .ok (recordsAmong now fields) := by
  have stand : fields.Stand := by
    intro field among
    obtain ⟨inner, same⟩ := objects field among
    exact ⟨inner, same ▸ rfl⟩
  rw [readEntries_stand stand, recordsAmong]
  refine congrArg Except.ok (List.filterMap_congr fun field among => ?_)
  obtain ⟨inner, same⟩ := objects field among
  have stands : field.2.toFields = .ok inner := same ▸ rfl
  rw [readable?, PageBindings.ofJson_of_fields stands, same]

theorem load_of_read {text : String} {fields : Fields}
    (read : Json.read text = .ok (.obj fields)) :
    file.load now (some text) = readEntries now fields := by
  show readText now text = _
  rw [readText, read]

/-- Of a text that is no object nothing is loaded. Of an object whose entries all stand for fields
those are loaded that make records, and if the entries are objects these are the objects among them
that make records; the first entry that stands for no fields breaks the load with its fault. On
what is loaded every call acts as in memory, and a put is refused for its version only; if nothing
can be loaded, every call but the one that clears has the fault and leaves the text. -/
theorem file_damaged (now : Float) (text : String) :
    ((∀ fields, Json.read text ≠ .ok (.obj fields)) → file.load now (some text) = .ok []) ∧
    (∀ fields : Fields, Json.read text = .ok (.obj fields) →
      (fields.Stand → file.load now (some text) = .ok (fields.filterMap (readable? now))) ∧
      ((∀ field ∈ fields, ∃ inner, field.2 = .obj inner) →
        file.load now (some text) = .ok (recordsAmong now fields)) ∧
      ∀ fault, file.load now (some text) = .error fault ↔ fields.Breaks fault) ∧
    (∀ records, file.load now (some text) = .ok records →
      (∀ past call, call.Distinct → file.ActsAs now past (some text) records call) ∧
      ∀ record expected fault, file.put now record expected (some text) = .error fault →
        ∃ version stored, expected = some version ∧
          Entries.find? record.id records = some stored ∧ stored.version ≠ version ∧
          fault = .staleBindings record.id version stored.version) ∧
    ∀ fault, file.load now (some text) = .error fault →
      fault.IsForeign ∧
        ∀ call, call ≠ .clearAll → file.perform now call (some text) = (.error fault, some text) := by
  have loadsNone (noObject : ∀ fields, Json.read text ≠ .ok (.obj fields)) :
      file.load now (some text) = .ok [] := by
    show readText now text = _
    unfold readText
    split
    next fields read => exact absurd read (noObject fields)
    next => rfl
  refine ⟨loadsNone, ?_, ?_, ?_⟩
  · intro fields read
    rw [load_of_read read]
    exact ⟨readEntries_stand, readEntries_objects, fun fault => readEntries_eq_error⟩
  · intro records loaded
    have reloads := Shipped.reloads .file (file_once loaded).1 loaded
    refine ⟨fun past => perform_actsAs loaded past reloads, ?_⟩
    intro record expected fault refused
    exact put_eq_error loaded refused
  · intro fault refused
    refine ⟨?_, perform_of_fault refused⟩
    by_cases noObject : ∀ fields, Json.read text ≠ .ok (.obj fields)
    · cases refused.symm.trans (loadsNone noObject)
    · push Not at noObject
      obtain ⟨fields, read⟩ := noObject
      rw [load_of_read read] at refused
      exact (readEntries_eq_error.mp refused).isForeign

open Rehearsal

/-- A record, and beside it a number. -/
def noted : Fields :=
  [("own", ownSite.toJson), ("note", .int 5)]

/-- The number breaks the file: its record can neither be read nor written over. -/
theorem file_breaks_noted :
    Json.read (Json.obj noted).write = .ok (.obj noted) ∧
      recordsAmong 0 noted = [("own", ownSite)] ∧
      (file.perform 0 .all (some (Json.obj noted).write)).1 =
        .error (.foreign "TypeError" "'int' object is not iterable") ∧
      (file.perform 0 (.put ownSite none) (some (Json.obj noted).write)).1 =
        .error (.foreign "TypeError" "'int' object is not iterable") := by
  have distinct : ownSite.Distinct := ⟨.nil, .nil⟩
  have once : (noted.map (·.1)).Nodup := by decide
  have keyed : Json.Keyed (.obj noted) := by
    refine .obj once ?_
    simp only [noted, List.forall_mem_cons]
    exact ⟨PageBindings.keyed_toJson distinct, .int 5, List.forall_mem_nil _⟩
  have read := Json.read_write keyed
  have breaks : Fields.Breaks (.foreign "TypeError" "'int' object is not iterable") noted :=
    .later rfl (.here rfl)
  have broken : file.load 0 (some (Json.obj noted).write) =
      .error (.foreign "TypeError" "'int' object is not iterable") :=
    (load_of_read read).trans (readEntries_breaks breaks)
  refine ⟨read, ?_, ?_, ?_⟩
  · have made : PageBindings.ofFieldsOrFault 0 ownSite.toFields = .ok ownSite :=
      PageBindings.ofJson_toJson 0 ownSite
    show ((PageBindings.ofFieldsOrFault 0 ownSite.toFields).toOption.map ("own", ·)).toList ++ [] = _
    rw [made]
    rfl
  · have asks : StoreCall.all ≠ .clearAll := by
      intro same
      cases same
    rw [perform_of_fault broken _ asks]
  · have asks : StoreCall.put ownSite none ≠ .clearAll := by
      intro same
      cases same
    rw [perform_of_fault broken _ asks]

end Medium

end Gleaner
