import Gleaner.Proofs.Store.Distinct

/-!
# What is loaded

The entries of a file are read one by one, in their order. One that stands for fields which make
no record is passed over; one that stands for no fields at all breaks the load. The time of loading
counts for records that name no time of their own, and for nothing else.
-/

set_option autoImplicit false

namespace Gleaner

/-!
## Values that stand for fields
-/

/-- A sequence is refused by its first part, or by what follows the first part's result. -/
theorem Json.bind_error {ε α β : Type} {first : Except ε α} {next : α → Except ε β} {fault : ε}
    (refused : (first >>= next) = .error fault) :
    first = .error fault ∨ ∃ value, first = .ok value ∧ next value = .error fault := by
  cases first with
  | error found =>
      cases refused
      exact .inl rfl
  | ok value => exact .inr ⟨value, rfl, refused⟩

/-- A fault that is known by its name and text only. -/
def Fault.IsForeign (fault : Fault) : Prop :=
  ∃ name text, fault = .foreign name text

theorem pairFields_error {index : Nat} {items : List Json} {fault : Fault}
    (refused : pairFields index items = .error fault) : fault.IsForeign := by
  induction items generalizing index with
  | nil => cases refused
  | cons item rest ih =>
      unfold pairFields at refused
      extract_lets wrongSize join at refused
      -- An item gives an entry, and then the others follow, or a fault of its own.
      have further {entry : Option (Json × Json)}
          (refused : (Except.ok entry >>= join) = .error fault) : fault.IsForeign := by
        have refused : (pairFields (index + 1) rest >>= _) = .error fault := refused
        rcases Json.bind_error refused with others | ⟨_, -, refused⟩
        · exact ih others
        · split at refused <;> cases refused <;> exact ⟨_, _, rfl⟩
      have wrong {found : Fault} (foreign : found.IsForeign)
          (refused : (Except.error found >>= join) = .error fault) : fault.IsForeign := by
        cases refused
        exact foreign
      split at refused
      next => exact further refused
      next => exact wrong ⟨_, _, rfl⟩ refused
      next =>
        split at refused
        · exact further refused
        · exact wrong ⟨_, _, rfl⟩ refused
      next => exact further refused
      next => exact wrong ⟨_, _, rfl⟩ refused
      next => exact wrong ⟨_, _, rfl⟩ refused

theorem Json.toFields_error {value : Json} {fault : Fault}
    (refused : value.toFields = .error fault) : fault.IsForeign := by
  have pairs {items : List Json}
      (refused : Entries.ofPairs <$> pairFields 0 items = .error fault) : fault.IsForeign := by
    cases read : pairFields 0 items with
    | error found =>
        rw [read] at refused
        cases refused
        exact pairFields_error read
    | ok fields =>
        rw [read] at refused
        cases refused
  cases value with
  | obj fields => cases refused
  | arr items => exact pairs refused
  | str text => exact pairs refused
  | _ => cases refused; exact ⟨_, _, rfl⟩

namespace PageBindings

variable {now : Float} {value : Json} {inner : Fields}

theorem ofJson_of_fields (stands : value.toFields = .ok inner) :
    ofJson now value = ofFieldsOrFault now inner := by
  rw [ofJson, stands]
  rfl

theorem ofJson_of_error {fault : Fault} (refused : value.toFields = .error fault) :
    ofJson now value = .error fault := by
  rw [ofJson, refused]
  rfl

/-- Fields make a record, or they are malformed. -/
theorem ofFieldsOrFault_cases (now : Float) (fields : Fields) :
    (∃ b, ofFieldsOrFault now fields = .ok b) ∨
      ∃ problems, ofFieldsOrFault now fields = .error (.malformed "PageBindings" problems) := by
  unfold ofFieldsOrFault
  rcases ofFields now fields with problems | b
  · exact .inr ⟨problems, rfl⟩
  · exact .inl ⟨b, rfl⟩

end PageBindings

/-!
## The entries of a file
-/

/-- Every entry stands for fields. -/
def Fields.Stand (fields : Fields) : Prop :=
  ∀ field ∈ fields, ∃ inner, field.2.toFields = .ok inner

/-- Some entry stands for no fields; the first such entry has this fault. -/
inductive Fields.Breaks (fault : Fault) : Fields → Prop where
  | here {key : String} {value : Json} {rest : Fields} :
      value.toFields = .error fault → Breaks fault ((key, value) :: rest)
  | later {key : String} {value : Json} {inner rest : Fields} :
      value.toFields = .ok inner → Breaks fault rest → Breaks fault ((key, value) :: rest)

namespace Fields

theorem stand_or_breaks (fields : Fields) : fields.Stand ∨ ∃ fault, Breaks fault fields := by
  induction fields with
  | nil => exact .inl (List.forall_mem_nil _)
  | cons field rest ih =>
      cases stands : field.2.toFields with
      | error fault => exact .inr ⟨fault, .here stands⟩
      | ok inner =>
          rcases ih with others | ⟨fault, breaks⟩
          · exact .inl (List.forall_mem_cons.mpr ⟨⟨inner, stands⟩, others⟩)
          · exact .inr ⟨fault, .later stands breaks⟩

theorem Breaks.isForeign {fields : Fields} {fault : Fault} (breaks : Breaks fault fields) :
    fault.IsForeign := by
  induction breaks with
  | here refused => exact Json.toFields_error refused
  | later _ _ ih => exact ih

end Fields

namespace Medium

variable {now : Float} {fields : Fields} {fault : Fault}

/-- The record of an entry, under its key, if it makes one. -/
def readable? (now : Float) (field : String × Json) : Option (String × PageBindings) :=
  (PageBindings.ofJson now field.2).toOption.map (field.1, ·)

/-- An entry that stands for fields is kept or passed over, whatever becomes of the others. -/
theorem readEntries_cons {key : String} {value : Json} {inner : Fields}
    (stands : value.toFields = .ok inner) :
    readEntries now ((key, value) :: fields) =
      (readEntries now fields).map ((readable? now (key, value)).toList ++ ·) := by
  have read : PageBindings.ofJson now value = PageBindings.ofFieldsOrFault now inner :=
    PageBindings.ofJson_of_fields stands
  rw [readEntries, readable?, read]
  rcases PageBindings.ofFieldsOrFault_cases now inner with ⟨b, made⟩ | ⟨problems, made⟩
  · simp only [made]
    cases readEntries now fields <;> rfl
  · simp only [made]
    cases readEntries now fields <;> rfl

/-- Entries that all stand for fields are read as those of them that make records. -/
theorem readEntries_stand (stand : fields.Stand) :
    readEntries now fields = .ok (fields.filterMap (readable? now)) := by
  induction fields with
  | nil => rfl
  | cons field rest ih =>
      obtain ⟨⟨inner, stands⟩, others⟩ := List.forall_mem_cons.mp stand
      rw [readEntries_cons stands, ih others, List.filterMap_cons]
      cases readable? now field <;> rfl

/-- The first entry that stands for no fields breaks the load. -/
theorem readEntries_breaks (breaks : fields.Breaks fault) :
    readEntries now fields = .error fault := by
  induction breaks with
  | here refused =>
      obtain ⟨name, text, rfl⟩ := Json.toFields_error refused
      rw [readEntries, PageBindings.ofJson_of_error refused]
      rfl
  | later stands _ ih =>
      rw [readEntries_cons stands, ih]
      rfl

theorem readEntries_eq_error : readEntries now fields = .error fault ↔ fields.Breaks fault := by
  refine ⟨fun refused => ?_, readEntries_breaks⟩
  rcases fields.stand_or_breaks with stand | ⟨found, breaks⟩
  · cases refused.symm.trans (readEntries_stand stand)
  · cases refused.symm.trans (readEntries_breaks breaks)
    exact breaks

end Medium

/-!
## The time of loading
-/

/-- The same record, but for the time that it has. -/
def PageBindings.Retimed (b other : PageBindings) : Prop :=
  ∃ time, other = { b with updatedAt := time }

namespace PageBindings

variable {now : Float} {b : PageBindings}

theorem ReadsFrom.retimed {fields : Fields} (reads : b.ReadsFrom now fields) (later : Float) :
    ∃ other, b.Retimed other ∧ other.ReadsFrom later fields := by
  have timed : ∃ time, fields.Reads ⟨"updatedAt", ["updated_at"]⟩ later Reading.float time := by
    cases found : FieldName.value? ⟨"updatedAt", ["updated_at"]⟩ fields with
    | none => exact ⟨later, Fields.Reads.missing found⟩
    | some value =>
        have own := (Fields.Reads.given found).mp reads.updatedAt
        exact ⟨b.updatedAt, (Fields.Reads.given found).mpr own⟩
  obtain ⟨time, timed⟩ := timed
  exact ⟨{ b with updatedAt := time }, ⟨time, rfl⟩, { reads with updatedAt := timed }⟩

theorem ofJson_retimed {value : Json} (made : ofJson now value = .ok b) (later : Float) :
    ∃ other, b.Retimed other ∧ ofJson later value = .ok other := by
  obtain ⟨fields, stands, made⟩ := Json.bind_ok made
  obtain ⟨other, same, reads⟩ := (ofFieldsOrFault_eq_ok.mp made).retimed later
  refine ⟨other, same, ?_⟩
  rw [ofJson_of_fields stands]
  exact ofFieldsOrFault_eq_ok.mpr reads

/-- What is no record at one time is none at any time. -/
theorem ofJson_malformed {value : Json} {form : String} {problems : Problems}
    (refused : ofJson now value = .error (.malformed form problems)) (later : Float) :
    ∃ form problems, ofJson later value = .error (.malformed form problems) := by
  cases stands : value.toFields with
  | error fault =>
      rw [ofJson_of_error stands] at refused ⊢
      exact ⟨form, problems, refused⟩
  | ok fields =>
      rw [ofJson_of_fields stands] at refused ⊢
      rcases ofFieldsOrFault_cases later fields with ⟨other, made⟩ | ⟨problems, made⟩
      · obtain ⟨b, -, reads⟩ := (ofFieldsOrFault_eq_ok.mp made).retimed now
        cases refused.symm.trans (ofFieldsOrFault_eq_ok.mpr reads)
      · exact ⟨_, problems, made⟩

end PageBindings

namespace Medium

theorem readEntries_retimed {now : Float} {fields : Fields} {records : Records}
    (read : readEntries now fields = .ok records) (later : Float) :
    ∃ others, readEntries later fields = .ok others ∧
      Entries.Alike PageBindings.Retimed records others := by
  induction fields generalizing records with
  | nil =>
      cases read
      exact ⟨[], rfl, .nil⟩
  | cons field rest ih =>
      rw [readEntries] at read
      split at read
      next b made =>
        obtain ⟨more, readMore, read⟩ := Json.bind_ok read
        cases read
        obtain ⟨other, same, again⟩ := PageBindings.ofJson_retimed made later
        obtain ⟨others, readOthers, alike⟩ := ih readMore
        refine ⟨(field.1, other) :: others, ?_, .cons ⟨rfl, same⟩ alike⟩
        rw [readEntries]
        simp only [again, readOthers]
        rfl
      next form problems refused =>
        obtain ⟨others, readOthers, alike⟩ := ih read
        obtain ⟨form, problems, again⟩ := PageBindings.ofJson_malformed refused later
        refine ⟨others, ?_, alike⟩
        rw [readEntries]
        simp only [again, readOthers]
      next => cases read

/-- Of a file the same records are loaded at any time, but for the times of those without one. -/
theorem file_retimed {now : Float} {kept : Option String} {records : Records}
    (loaded : file.load now kept = .ok records) (later : Float) :
    ∃ others, file.load later kept = .ok others ∧
      Entries.Alike PageBindings.Retimed records others := by
  cases kept with
  | none =>
      cases loaded
      exact ⟨[], rfl, .nil⟩
  | some text =>
      have read : readText now text = .ok records := loaded
      unfold readText at read
      show ∃ others, readText later text = .ok others ∧ _
      unfold readText
      split at read
      next fields made => exact readEntries_retimed read later
      next =>
        cases read
        exact ⟨[], rfl, .nil⟩

end Medium

end Gleaner
