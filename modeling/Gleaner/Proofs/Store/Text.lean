import Gleaner.Proofs.Bindings.Record
import Gleaner.Proofs.Json.Indented
import Gleaner.Store

/-!
# Records as the text of a file

Records that are written to a file are read back as they were, in the same order, at any later
time: every part of a record is written, as an object with each key once.
-/

set_option autoImplicit false

namespace Gleaner

/-- The filters and the elements of a record have each name once. -/
structure PageBindings.Distinct (b : PageBindings) : Prop where
  filters : (b.filters.map (·.1)).Nodup
  elements : (b.elements.map (·.1)).Nodup

/-!
## Parts of records
-/

namespace Json

theorem keyed_ofString? (text : Option String) : Keyed (.ofString? text) := by
  cases text with
  | some text => exact .str text
  | none => exact .null

theorem keyed_compact {fields : Fields} (once : (fields.map (·.1)).Nodup)
    (each : ∀ field ∈ fields, Keyed field.2) : Keyed (.compact fields) := by
  refine .obj (once.sublist (List.filter_sublist.map _)) fun field found => ?_
  exact each field (List.mem_filter.mp found).1

theorem keyed_mapValues {α : Type} {write : α → Json} {entries : Entries α}
    (once : (entries.map (·.1)).Nodup) (each : ∀ value, Keyed (write value)) :
    Keyed (.obj (entries.mapValues write)) := by
  refine .obj ?_ fun field found => ?_
  · rw [Entries.mapValues, List.map_map]
    exact once
  · obtain ⟨entry, _, rfl⟩ := List.mem_map.mp found
    exact each entry.2

theorem keyed_alone (key : String) {value : Json} (keyed : Keyed value) :
    Keyed (.obj [(key, value)]) :=
  .obj (List.nodup_singleton key) (List.forall_mem_singleton.mpr keyed)

/-- What may be unset is written as null then. -/
theorem keyed_optional {α : Type} {encode : α → Json} {part : Option α} {value : Json}
    (written : value = (part.map encode).getD .null) (each : ∀ one, Keyed (encode one)) :
    Keyed value := by
  subst written
  cases part with
  | some one => exact each one
  | none => exact .null

end Json

open Json

mutual

theorem StateCondition.keyed_toJson (condition : StateCondition) : Keyed condition.toJson := by
  cases condition with
  | present selector => exact keyed_alone _ (.str selector)
  | visible selector => exact keyed_alone _ (.str selector)
  | gone selector => exact keyed_alone _ (.str selector)
  | countChanged selector => exact keyed_alone _ (.str selector)
  | countAtLeast selector count =>
      have once : ["selector", "count"].Nodup := by decide
      refine keyed_alone _ (.obj once ?_)
      exact List.forall_mem_cons.mpr ⟨.str selector, List.forall_mem_singleton.mpr (.int count)⟩
  | urlContains text => exact keyed_alone _ (.str text)
  | urlMatches pattern => exact keyed_alone _ (.str pattern)
  | allOf parts => exact keyed_alone _ (.arr (keyed_listToJson parts))
  | anyOf parts => exact keyed_alone _ (.arr (keyed_listToJson parts))

theorem StateCondition.keyed_listToJson (parts : List StateCondition) :
    ∀ item ∈ StateCondition.listToJson parts, Keyed item := by
  cases parts with
  | nil => exact List.forall_mem_nil _
  | cons part rest =>
      exact List.forall_mem_cons.mpr
        ⟨StateCondition.keyed_toJson part, StateCondition.keyed_listToJson rest⟩

end

theorem ItemIdRule.keyed_toJson (rule : ItemIdRule) : Keyed rule.toJson := by
  have once : ["from", "selector", "attribute", "pattern"].Nodup := by decide
  refine keyed_compact once ?_
  simp only [List.forall_mem_cons]
  exact ⟨.str _, keyed_ofString? _, keyed_ofString? _, keyed_ofString? _, List.forall_mem_nil _⟩

theorem FilterBinding.keyed_toJson (filter : FilterBinding) : Keyed filter.toJson := by
  have once : ["selector", "type", "optionsSelector"].Nodup := by decide
  refine keyed_compact once ?_
  simp only [List.forall_mem_cons]
  exact ⟨.str _, .str _, keyed_ofString? _, List.forall_mem_nil _⟩

/-!
## Whole records
-/

namespace PageBindings

variable {b : PageBindings}

theorem keyed_allFields (distinct : b.Distinct) : ∀ field ∈ b.allFields, Keyed field.2 := by
  have condition (part : Option StateCondition) {value : Json}
      (written : value = (part.map StateCondition.toJson).getD .null) : Keyed value :=
    keyed_optional written StateCondition.keyed_toJson
  have name {α : Type} (text : α → String) (part : Option α) {value : Json}
      (written : value = (part.map (.str ∘ text)).getD .null) : Keyed value :=
    keyed_optional written fun one => .str (text one)
  have filters := keyed_mapValues distinct.filters FilterBinding.keyed_toJson
  have elements := keyed_mapValues distinct.elements .str
  -- One fact for each field, in the order in which they are written.
  simp only [allFields, List.forall_mem_cons]
  exact ⟨.str _, .str _, .int _, .float _, keyed_ofString? _, keyed_ofString? _, .str _, .str _,
    keyed_ofString? _, keyed_ofString? _, keyed_ofStrings _, filters, elements,
    keyed_ofString? _, keyed_ofString? _, keyed_ofString? _,
    condition b.states.pageLoaded (by cases b.states.pageLoaded <;> rfl),
    condition b.states.listLoaded (by cases b.states.listLoaded <;> rfl),
    condition b.states.listUpdated (by cases b.states.listUpdated <;> rfl),
    condition b.states.detailsLoaded (by cases b.states.detailsLoaded <;> rfl),
    condition b.states.noMoreItems (by cases b.states.noMoreItems <;> rfl),
    condition b.states.listEmpty (by cases b.states.listEmpty <;> rfl),
    condition b.states.loading (by cases b.states.loading <;> rfl),
    keyed_optional rfl ItemIdRule.keyed_toJson,
    name ScrollBehavior.name b.scrollBehavior (by cases b.scrollBehavior <;> rfl),
    name ClickBehavior.name b.clickBehavior (by cases b.clickBehavior <;> rfl),
    name ReturnToList.name b.returnToList (by cases b.returnToList <;> rfl),
    keyed_ofString? _, List.forall_mem_nil _⟩

theorem keyed_toJson (distinct : b.Distinct) : Keyed b.toJson := by
  have once : (b.allFields.map (·.1)).Nodup := by
    rw [keys_allFields]
    decide +kernel
  exact keyed_compact once (keyed_allFields distinct)

theorem ofJson_toJson (now : Float) (b : PageBindings) : ofJson now b.toJson = .ok b :=
  ofFieldsOrFault_eq_ok.mpr (b.readsFrom_toFields now)

end PageBindings

/-!
## Whole files
-/

/-- Records under their own ids, each of which is there once. -/
structure Records.Sound (records : Records) : Prop where
  once : (records.map (·.1)).Nodup
  own : ∀ entry ∈ records, entry.2.id = entry.1
  distinct : ∀ entry ∈ records, entry.2.Distinct

namespace Medium

theorem readEntries_written (now : Float) (records : Records) :
    readEntries now (records.mapValues PageBindings.toJson) = .ok records := by
  induction records with
  | nil => rfl
  | cons entry rest ih =>
      have first := PageBindings.ofJson_toJson now entry.2
      have others : readEntries now (rest.map fun entry => (entry.1, entry.2.toJson)) = .ok rest := ih
      rw [Entries.mapValues, List.map_cons, readEntries, first, others]
      rfl

/-- What is written to a file is read back, whatever the time. -/
theorem readText_toText (now : Float) {records : Records} (once : (records.map (·.1)).Nodup)
    (distinct : ∀ entry ∈ records, entry.2.Distinct) :
    readText now (toText records) = .ok records := by
  have keyed : Json.Keyed (.obj (records.mapValues PageBindings.toJson)) := by
    refine .obj ?_ fun field found => ?_
    · rw [Entries.mapValues, List.map_map]
      exact once
    · obtain ⟨entry, kept, rfl⟩ := List.mem_map.mp found
      exact PageBindings.keyed_toJson (distinct entry kept)
  rw [readText, toText, Json.read_writeIndented 2 keyed]
  exact readEntries_written now records

end Medium

end Gleaner
