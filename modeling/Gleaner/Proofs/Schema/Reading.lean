import Gleaner.Proofs.Entries
import Gleaner.Schema.Reading

/-!
# Readings that succeed

When a reading gives a value, and which. A reading of several parts succeeds when the reading
of every part does, so no part depends on another; where problems are placed does not matter to
a value that has none.
-/

set_option autoImplicit false

namespace Gleaner

theorem mapError_eq_ok {ε ε' α : Type} {f : ε → ε'} {made : Except ε α} {result : α} :
    made.mapError f = .ok result ↔ made = .ok result := by
  cases made with
  | error fault => exact ⟨nofun, nofun⟩
  | ok value => exact ⟨fun same => by cases same; rfl, fun same => by cases same; rfl⟩

namespace Checked

variable {α β : Type}

theorem map_eq_ok {f : α → β} {x : Checked α} {result : β} :
    f <$> x = .ok result ↔ ∃ value, x = .ok value ∧ f value = result := by
  constructor
  · intro same
    rcases x with problems | value
    · cases same
    · cases same
      exact ⟨value, rfl, rfl⟩
  · rintro ⟨value, rfl, rfl⟩
    rfl

theorem seq_eq_ok {f : Checked (α → β)} {x : Checked α} {result : β} :
    f <*> x = .ok result ↔ ∃ g value, f = .ok g ∧ x = .ok value ∧ g value = result := by
  constructor
  · intro same
    rcases f with problems | g
    · rcases x with more | value <;> cases same
    · rcases x with problems | value
      · cases same
      · cases same
        exact ⟨g, value, rfl, rfl, rfl⟩
  · rintro ⟨g, value, rfl, rfl, rfl⟩
    rfl

theorem map_ok {f : α → β} {x : Checked α} {value : α} (made : x = .ok value) :
    f <$> x = .ok (f value) :=
  map_eq_ok.mpr ⟨value, made, rfl⟩

theorem seq_ok {f : Checked (α → β)} {x : Checked α} {g : α → β} {value : α} (first : f = .ok g)
    (made : x = .ok value) : f <*> x = .ok (g value) :=
  seq_eq_ok.mpr ⟨g, value, first, made, rfl⟩

theorem under_eq_ok {step : PathStep} {x : Checked α} {result : α} :
    x.under step = .ok result ↔ x = .ok result := by
  cases x with
  | error problems => exact ⟨nofun, nofun⟩
  | ok value => exact Iff.rfl

theorem demand_eq_ok {test : α → Bool} {complaint : Complaint} {x : Checked α} {result : α} :
    x.demand test complaint = .ok result ↔ x = .ok result ∧ test result = true := by
  rcases x with problems | value
  · exact ⟨nofun, nofun⟩
  · rw [demand]
    by_cases fits : test value = true
    · rw [if_pos fits]
      refine ⟨fun same => ?_, fun same => same.1⟩
      cases same
      exact ⟨rfl, fits⟩
    · rw [if_neg fits]
      refine ⟨nofun, fun same => ?_⟩
      obtain ⟨same, fit⟩ := same
      cases same
      exact absurd fit fits

theorem toExcept_eq_ok {ε : Type} {f : Problems → ε} {x : Checked α} {result : α} :
    x.toExcept.mapError f = .ok result ↔ x = .ok result :=
  mapError_eq_ok

end Checked

/-!
## Fields
-/

/-- The value of a field, under the first of its spellings that is there. -/
def FieldName.value? (name : FieldName) (fields : Fields) : Option Json :=
  name.spellings.findSome? fun key => Entries.find? key fields

theorem FieldName.find?_value (name : FieldName) (fields : Fields) :
    (name.find? fields).map (·.value) = name.value? fields := by
  unfold FieldName.find? FieldName.value?
  rw [List.map_findSome?]
  congr 1
  funext key
  rw [Function.comp_apply]
  split
  next found => exact found.symm
  next missing => exact missing.symm

namespace Fields

variable {α : Type} {fields : Fields} {name : FieldName} {default result : α} {read : Reading α}

/-- A field reads as a value: what is there is read so, and the default stands for what is not. -/
def Reads (fields : Fields) (name : FieldName) (default : α) (read : Reading α) (result : α) :
    Prop :=
  (name.value? fields).elim (.ok default) read = .ok result

theorem optional_eq_ok :
    optional fields name default read = .ok result ↔ Reads fields name default read result := by
  unfold optional optionalIn Reads
  rw [← FieldName.find?_value]
  cases name.find? fields with
  | none => exact Iff.rfl
  | some hit => exact Checked.under_eq_ok

/-- What a field reads as depends on nothing but its value. -/
theorem Reads.congr {others : Fields} (reads : Reads others name default read result)
    (same : name.value? fields = name.value? others) : Reads fields name default read result := by
  rw [Reads, same]
  exact reads

theorem Reads.given {value : Json} (found : name.value? fields = some value) :
    Reads fields name default read result ↔ read value = .ok result := by
  rw [Reads, found]
  exact Iff.rfl

theorem Reads.missing (absent : name.value? fields = none) :
    Reads fields name default read default := by
  rw [Reads, absent]
  rfl

/-- A field is there and reads as a value. -/
def Holds (fields : Fields) (name : FieldName) (read : Reading α) (result : α) : Prop :=
  ∃ value, name.value? fields = some value ∧ read value = .ok result

theorem required_eq_ok :
    required fields name read = .ok result ↔ Holds fields name read result := by
  unfold required requiredIn Holds
  rw [← FieldName.find?_value]
  cases name.find? fields with
  | none => exact ⟨nofun, nofun⟩
  | some hit => simp [Checked.under_eq_ok]

end Fields

/-!
## Values
-/

theorem exists_forall₂ {α β : Type} {R : α → β → Prop} {items : List α} :
    (∃ results, List.Forall₂ R items results) ↔ ∀ item ∈ items, ∃ result, R item result := by
  induction items with
  | nil => exact ⟨fun _ => List.forall_mem_nil _, fun _ => ⟨[], .nil⟩⟩
  | cons item rest ih =>
      rw [List.forall_mem_cons, ← ih]
      constructor
      · rintro ⟨_, each⟩
        cases each with
        | cons first others => exact ⟨⟨_, first⟩, _, others⟩
      · rintro ⟨⟨result, first⟩, results, others⟩
        exact ⟨result :: results, .cons first others⟩

namespace Reading

variable {α : Type} {read : Reading α}

theorem string_eq_ok {value : Json} {text : String} :
    string value = .ok text ↔ value = .str text := by
  cases value with
  | str other =>
      exact ⟨fun same => by cases same; rfl, fun same => by cases same; rfl⟩
  | _ => exact ⟨nofun, nofun⟩

theorem eachIn_eq_ok {items : List Json} {results : List α} {index : Nat} :
    eachIn items (fun item _ => read item) index = .ok results ↔
      List.Forall₂ (fun item result => read item = .ok result) items results := by
  induction items generalizing results index with
  | nil =>
      rw [List.forall₂_nil_left_iff]
      exact ⟨fun same => by cases same; rfl, fun same => by rw [same]; rfl⟩
  | cons item rest ih =>
      rw [eachIn, Checked.seq_eq_ok, List.forall₂_cons_left_iff]
      constructor
      · rintro ⟨g, others, first, further, rfl⟩
        obtain ⟨result, made, rfl⟩ := Checked.map_eq_ok.mp first
        exact ⟨result, others, Checked.under_eq_ok.mp made, ih.mp further, rfl⟩
      · rintro ⟨result, others, made, further, rfl⟩
        exact ⟨_, others, Checked.map_eq_ok.mpr ⟨result, Checked.under_eq_ok.mpr made, rfl⟩,
          ih.mpr further, rfl⟩

theorem eachIn_strings {items : List Json} {texts : List String} {index : Nat} :
    eachIn items (fun value _ => string value) index = .ok texts ↔ items = texts.map .str := by
  rw [eachIn_eq_ok]
  calc
    _ ↔ List.Forall₂ (fun item text => item = Json.str text) items texts := by
      simp only [string_eq_ok]
    _ ↔ List.Forall₂ Eq items (texts.map Json.str) := List.forall₂_map_right_iff.symm
    _ ↔ items = texts.map Json.str := by rw [List.forall₂_eq_eq_eq]

theorem strings_eq_ok {value : Json} {texts : List String} :
    list string value = .ok texts ↔ value = .ofStrings texts := by
  cases value with
  | arr items =>
      refine eachIn_strings.trans ⟨fun same => congrArg Json.arr same, fun same => ?_⟩
      cases same
      rfl
  | _ => exact ⟨nofun, nofun⟩

theorem entries_eq_ok {read : Reading α} {value : Json} {result : Entries α} :
    entries read value = .ok result ↔ ∃ fields, value = .obj fields ∧
      Entries.Alike (fun given made => read given = .ok made) fields result := by
  cases value with
  | obj fields =>
      have each : entries read (.obj fields) = .ok result ↔
          Entries.Alike (fun given made => read given = .ok made) fields result := by
        induction fields generalizing result with
        | nil =>
            refine ⟨fun same => by cases same; exact .nil, fun alike => ?_⟩
            cases alike
            rfl
        | cons field rest ih =>
            rw [entries, List.foldr_cons]
            refine Checked.seq_eq_ok.trans ⟨?_, fun alike => ?_⟩
            · rintro ⟨g, others, first, read, rfl⟩
              obtain ⟨made, named, rfl⟩ := Checked.map_eq_ok.mp first
              exact .cons ⟨rfl, Checked.under_eq_ok.mp named⟩ (ih.mp read)
            · cases alike with
              | @cons _ other _ others first rest =>
                  obtain ⟨key, made⟩ := other
                  obtain ⟨named, made⟩ := first
                  exact ⟨_, others, Checked.map_eq_ok.mpr ⟨_, Checked.under_eq_ok.mpr made, rfl⟩,
                    ih.mpr rest, by rw [named]⟩
      refine each.trans ⟨fun alike => ⟨fields, rfl, alike⟩, fun ⟨_, same, alike⟩ => ?_⟩
      cases same
      exact alike
  | _ => exact ⟨nofun, fun ⟨_, impossible, _⟩ => nomatch impossible⟩

theorem orNull_eq_ok {read : Reading α} {value : Json} {part : Option α}
    (made : orNull read value = .ok part) (given : value.isNull = false) :
    ∃ one, part = some one ∧ read value = .ok one := by
  cases value with
  | null => cases given
  | _ =>
      obtain ⟨one, read, same⟩ := Checked.map_eq_ok.mp made
      exact ⟨one, same.symm, read⟩

theorem orNull_some {read : Reading α} {value : Json} {result : α}
    (given : value.isNull = false) (made : read value = .ok result) :
    orNull read value = .ok (some result) := by
  cases value with
  | null => cases given
  | _ => exact Checked.map_eq_ok.mpr ⟨result, made, rfl⟩

theorem natural_int {least count : Nat} (enough : least ≤ count) :
    natural least none (.int count) = .ok count := by
  have least : ¬(count : Int) < least := by omega
  simp only [natural, int, Checked.ok]
  exact if_neg least

theorem choice_eq_ok {choices : List (String × α)} {value : Json} {result : α} :
    choice choices value = .ok result ↔
      ∃ name, value = .str name ∧ Entries.find? name choices = some result := by
  constructor
  · intro made
    cases value with
    | str name =>
        simp only [choice] at made
        split at made
        next one found =>
          cases made
          exact ⟨name, rfl, found⟩
        next => cases made
    | _ => cases made
  · rintro ⟨name, rfl, found⟩
    simp only [choice, found]

end Reading

/-!
## Lists in fields
-/

namespace Fields

variable {α : Type} {fields : Fields} {name : FieldName} {read : Reading α} {results : List α}

theorem itemsIn_eq_ok {value : Json} {smaller : sizeOf value < sizeOf fields} :
    itemsIn value fields smaller (fun item _ => read item) = .ok results ↔
      ∃ items, value = .arr items ∧
        List.Forall₂ (fun item result => read item = .ok result) items results := by
  cases value with
  | arr items =>
      refine Reading.eachIn_eq_ok.trans ⟨fun each => ⟨items, rfl, each⟩, ?_⟩
      rintro ⟨_, same, each⟩
      cases same
      exact each
  | _ => exact ⟨nofun, nofun⟩

theorem requiredList_eq_ok :
    requiredList fields name (fun item _ => read item) = .ok results ↔
      ∃ items, name.value? fields = some (.arr items) ∧
        List.Forall₂ (fun item result => read item = .ok result) items results := by
  unfold requiredList requiredIn
  rw [← FieldName.find?_value]
  cases name.find? fields with
  | none => exact ⟨nofun, nofun⟩
  | some hit => simp [Checked.under_eq_ok, itemsIn_eq_ok]

theorem optionalList_eq_ok :
    optionalList fields name (fun item _ => read item) = .ok results ↔
      (name.value? fields = none ∧ results = []) ∨
      ∃ items, name.value? fields = some (.arr items) ∧
        List.Forall₂ (fun item result => read item = .ok result) items results := by
  unfold optionalList optionalIn
  rw [← FieldName.find?_value]
  cases name.find? fields with
  | none =>
      refine ⟨fun same => .inl ⟨rfl, by cases same; rfl⟩, ?_⟩
      rintro (⟨_, rfl⟩ | ⟨_, impossible, _⟩)
      · rfl
      · cases impossible
  | some hit => simp [Checked.under_eq_ok, itemsIn_eq_ok]

end Fields

/-!
## Inside an object

What the fields of an object hold, themselves or as items of lists, and the induction that goes
from an object to that.
-/

theorem forall₂_imp_left {α β : Type} {R S : α → β → Prop} {items : List α} {results : List β}
    (each : List.Forall₂ R items results)
    (implies : ∀ item ∈ items, ∀ result, R item result → S item result) :
    List.Forall₂ S items results :=
  ((List.forall₂_and_left _ _).mpr ⟨fun _ among => among, each⟩).imp
    fun item result ⟨among, related⟩ => implies item among result related

/-- A value that a field holds, or that is an item of a list that a field holds. -/
inductive Fields.Inside (fields : Fields) : Json → Prop where
  | field {key : String} {value : Json} : Entries.find? key fields = some value → Inside fields value
  | item {key : String} {items : List Json} {value : Json} :
      Entries.find? key fields = some (.arr items) → value ∈ items → Inside fields value

theorem Fields.Inside.sizeOf_lt {fields : Fields} {value : Json} (inside : fields.Inside value) :
    sizeOf value < sizeOf fields := by
  cases inside with
  | field found => exact Entries.find?_sizeOf_lt found
  | @item _ items _ found among =>
      have list : sizeOf (Json.arr items) < sizeOf fields := Entries.find?_sizeOf_lt found
      have item := List.sizeOf_lt_of_mem among
      rw [Json.arr.sizeOf_spec] at list
      omega

theorem FieldName.inside {name : FieldName} {fields : Fields} {value : Json}
    (found : name.value? fields = some value) : fields.Inside value := by
  obtain ⟨key, -, found⟩ := List.exists_of_findSome?_eq_some found
  exact .field found

theorem FieldName.inside_list {name : FieldName} {fields : Fields} {items : List Json} {value : Json}
    (found : name.value? fields = some (.arr items)) (among : value ∈ items) :
    fields.Inside value := by
  obtain ⟨key, -, found⟩ := List.exists_of_findSome?_eq_some found
  exact .item found among

/-- Induction that goes from an object to what its fields hold. -/
theorem Json.induction_inside {motive : Json → Prop}
    (other : ∀ value, value.asFields? = none → motive value)
    (object : ∀ fields, (∀ value, Fields.Inside fields value → motive value) →
      motive (.obj fields)) : ∀ value, motive value
  | .obj fields => object fields fun value _ => induction_inside other object value
  | .null => other _ rfl
  | .bool _ => other _ rfl
  | .int _ => other _ rfl
  | .float _ => other _ rfl
  | .str _ => other _ rfl
  | .arr _ => other _ rfl
termination_by value => sizeOf value
decreasing_by
  have smaller := Fields.Inside.sizeOf_lt ‹_›
  rw [Json.obj.sizeOf_spec]
  omega

end Gleaner
