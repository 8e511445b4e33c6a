import Gleaner.Proofs.Advisor.Discovery
import Gleaner.Proofs.Advisor.Fix
import Gleaner.Proofs.Json.Keyed
import Gleaner.Proofs.Store.Text

/-!
# Records with each name once

Filters and elements have each name once in every record there is: in those that are loaded from
a file, in those that a model proposes, in those that patches make of them, and so in the record
that a run ends with. Such records are what a file gives back as it was written.
-/

set_option autoImplicit false

namespace Gleaner

/-!
## What is read of a value
-/

theorem Entries.Alike.keys {α β : Type} {together : α → β → Prop} {entries : Entries α}
    {others : Entries β} (alike : Alike together entries others) :
    entries.map (·.1) = others.map (·.1) := by
  induction alike with
  | nil => rfl
  | cons first _ ih => rw [List.map_cons, List.map_cons, first.1, ih]

/-- If a value is an object, it has each key once. -/
def Json.Once (value : Json) : Prop :=
  ∀ fields, value = .obj fields → (fields.map (·.1)).Nodup

theorem Json.Keyed.once {value : Json} (keyed : Keyed value) : value.Once := by
  intro fields same
  cases keyed with
  | obj once each =>
      cases same
      exact once
  | _ => cases same

theorem Reading.nodup_entries {α : Type} {read : Reading α} {value : Json} {entries : Entries α}
    (once : value.Once) (made : Reading.entries read value = .ok entries) :
    (entries.map (·.1)).Nodup := by
  obtain ⟨fields, same, alike⟩ := Reading.entries_eq_ok.mp made
  rw [← alike.keys]
  exact once fields same

theorem Fields.Reads.nodup {α : Type} {read : Reading α} {fields : Fields} {name : FieldName}
    {entries : Entries α} (reads : Fields.Reads fields name [] (Reading.entries read) entries)
    (once : ∀ value, name.value? fields = some value → value.Once) :
    (entries.map (·.1)).Nodup := by
  cases found : name.value? fields with
  | none =>
      rw [Fields.Reads, found] at reads
      cases reads
      exact List.nodup_nil
  | some value =>
      exact Reading.nodup_entries (once value found) ((Fields.Reads.given found).mp reads)

theorem FieldName.value?_mem {name : FieldName} {fields : Fields} {value : Json}
    (found : name.value? fields = some value) : ∃ key, (key, value) ∈ fields := by
  obtain ⟨key, -, there⟩ := List.exists_of_findSome?_eq_some found
  exact ⟨key, Entries.mem_of_find? there⟩

/-!
## Records in a file
-/

theorem Json.keyed_pairFields {index : Nat} {items : List Json} {fields : Fields}
    (each : ∀ item ∈ items, Keyed item) (made : pairFields index items = .ok fields) :
    ∀ field ∈ fields, Keyed field.2 := by
  induction items generalizing index fields with
  | nil =>
      cases made
      exact List.forall_mem_nil _
  | cons item rest ih =>
      obtain ⟨first, others⟩ := List.forall_mem_cons.mp each
      unfold pairFields at made
      extract_lets wrongSize join at made
      have joined {entry : Option (Json × Json)}
          (second : ∀ key value, entry = some (key, value) → Keyed value)
          (made : join entry = .ok fields) : ∀ field ∈ fields, Keyed field.2 := by
        obtain ⟨more, read, made⟩ := bind_ok made
        have further := ih others read
        split at made <;> cases made
        · exact List.forall_mem_cons.mpr ⟨second _ _ rfl, further⟩
        · exact further
      have texts {key value : String} :
          ∀ left right, some (Json.str key, Json.str value) = some (left, right) →
            Keyed right := by
        rintro _ _ ⟨⟩
        exact .str value
      split at made
      next key value =>
        cases first with
        | arr each =>
            refine joined (fun left right same => ?_) made
            cases same
            exact each value (by simp)
      next => cases made
      next =>
        split at made
        · exact joined texts made
        · cases made
      next => exact joined texts made
      next => cases made
      next => cases made

theorem Json.keyed_toFields {value : Json} {fields : Fields} (keyed : Keyed value)
    (made : value.toFields = .ok fields) : ∀ field ∈ fields, Keyed field.2 := by
  have pairs {items : List Json} (each : ∀ item ∈ items, Keyed item)
      (made : Entries.ofPairs <$> pairFields 0 items = .ok fields) :
      ∀ field ∈ fields, Keyed field.2 := by
    cases read : pairFields 0 items with
    | error fault =>
        rw [read] at made
        cases made
    | ok given =>
        rw [read] at made
        cases made
        cases keyed_ofPairs (keyed_pairFields each read) with
        | obj _ each => exact each
  cases keyed with
  | obj _ each =>
      cases made
      exact each
  | arr each => exact pairs each made
  | str text =>
      refine pairs (fun item found => ?_) made
      obtain ⟨c, -, rfl⟩ := List.mem_map.mp found
      exact .str _
  | _ => cases made

namespace PageBindings

theorem ReadsFrom.distinct {now : Float} {fields : Fields} {b : PageBindings}
    (reads : b.ReadsFrom now fields) (keyed : ∀ field ∈ fields, Json.Keyed field.2) :
    b.Distinct := by
  have once {name : FieldName} (value : Json) (found : name.value? fields = some value) :
      value.Once := by
    obtain ⟨key, there⟩ := FieldName.value?_mem found
    exact (keyed _ there).once
  exact ⟨reads.filters.nodup once, reads.elements.nodup once⟩

theorem ofJson_distinct {now : Float} {value : Json} {b : PageBindings}
    (keyed : Json.Keyed value) (made : ofJson now value = .ok b) : b.Distinct := by
  obtain ⟨fields, given, made⟩ := Json.bind_ok made
  exact (ofFieldsOrFault_eq_ok.mp made).distinct (Json.keyed_toFields keyed given)

end PageBindings

namespace Medium

theorem readEntries_once {now : Float} {fields : Fields} {records : Records}
    (each : ∀ field ∈ fields, Json.Keyed field.2) (read : readEntries now fields = .ok records) :
    (records.map (·.1)).Sublist (fields.map (·.1)) ∧ ∀ entry ∈ records, entry.2.Distinct := by
  induction fields generalizing records with
  | nil =>
      cases read
      exact ⟨.slnil, List.forall_mem_nil _⟩
  | cons field rest ih =>
      obtain ⟨first, others⟩ := List.forall_mem_cons.mp each
      rw [readEntries] at read
      split at read
      next record made =>
        obtain ⟨more, readMore, read⟩ := Json.bind_ok read
        cases read
        obtain ⟨keys, distinct⟩ := ih others readMore
        exact ⟨keys.cons_cons _,
          List.forall_mem_cons.mpr ⟨PageBindings.ofJson_distinct first made, distinct⟩⟩
      next =>
        obtain ⟨keys, distinct⟩ := ih others read
        exact ⟨keys.cons _, distinct⟩
      next => cases read

/-- Whatever text a file has, the records in it have each key and each name once. -/
theorem file_once {now : Float} {kept : Option String} {records : Records}
    (loaded : file.load now kept = .ok records) :
    (records.map (·.1)).Nodup ∧ ∀ entry ∈ records, entry.2.Distinct := by
  have none : (([] : Records).map (·.1)).Nodup ∧ ∀ entry ∈ ([] : Records), entry.2.Distinct :=
    ⟨List.nodup_nil, List.forall_mem_nil _⟩
  cases kept with
  | none =>
      cases loaded
      exact none
  | some text =>
      have read : readText now text = .ok records := loaded
      unfold readText at read
      split at read
      next fields made =>
        cases Json.keyed_of_read made with
        | obj once each =>
            obtain ⟨keys, distinct⟩ := readEntries_once each read
            exact ⟨once.sublist keys, distinct⟩
      next =>
        cases read
        exact none

end Medium

/-!
## Patches
-/

namespace PageBindings

/-- Filters and elements are joined into what is there, which has each name once. -/
theorem once_joinAll {wire : String} (joins : wire = "FILTERS" ∨ wire = "ELEMENTS")
    (changes : Fields) {fields inner : Fields}
    (found : Entries.find? wire fields = some (.obj inner)) (once : (inner.map (·.1)).Nodup) :
    ∃ merged, Entries.find? wire (joinAll changes fields) = some (.obj merged) ∧
      (merged.map (·.1)).Nodup := by
  induction changes generalizing fields inner with
  | nil => exact ⟨inner, found, once⟩
  | cons change rest ih =>
      obtain ⟨key, value⟩ := change
      rw [joinAll, List.foldl_cons]
      by_cases same : key = wire
      · subst same
        obtain ⟨updates, joined⟩ : ∃ updates, Patch.joined key (some (.obj inner)) value =
            .obj (Entries.overlay inner updates) := by
          rcases joins with rfl | rfl <;> exact ⟨_, rfl⟩
        refine ih ?_ (Entries.nodup_overlay updates once)
        rw [Entries.find?_put, if_pos rfl, found, joined]
      · refine ih ?_ once
        rw [Entries.find?_put, if_neg same, found]

theorem merge_distinct {now : Float} {b merged : PageBindings} {patch : Fields}
    (distinct : b.Distinct) (accepted : b.merge now patch = .ok merged) : merged.Distinct := by
  have reads : merged.ReadsFrom now (Entries.overlay (joinAll (Patch.changes patch) b.toFields)
      [("version", .int (b.version + 1)), ("updatedAt", .float now)]) :=
    ofFieldsOrFault_eq_ok.mp accepted
  have named {α β : Type} {name : FieldName} {entries : Entries α} {old : Entries β}
      {read : Reading α} {write : β → Json}
      (joins : name.wire = "FILTERS" ∨ name.wire = "ELEMENTS")
      (reads : Fields.Reads (Entries.overlay (joinAll (Patch.changes patch) b.toFields)
        [("version", .int (b.version + 1)), ("updatedAt", .float now)]) name []
        (Reading.entries read) entries)
      (found : b.value? name.wire = some (.obj (old.mapValues write)))
      (once : (old.map (·.1)).Nodup) : (entries.map (·.1)).Nodup := by
    have keys : ((old.mapValues write).map (·.1)).Nodup := by
      rw [Entries.mapValues, List.map_map]
      exact once
    obtain ⟨inner, there, once⟩ := once_joinAll joins (Patch.changes patch) found keys
    have last : Entries.find? name.wire
        (Entries.overlay (joinAll (Patch.changes patch) b.toFields)
          [("version", .int (b.version + 1)), ("updatedAt", .float now)]) = some (.obj inner) := by
      simp only [Entries.overlay, List.foldl_cons, List.foldl_nil, Entries.find?_put]
      rcases joins with same | same <;> rw [same] at there ⊢ <;> exact there
    refine Reading.nodup_entries (fun fields same => ?_) (reads_first reads last)
    cases same
    exact once
  constructor
  · exact named (.inl rfl) reads.filters b.value?_filters distinct.filters
  · exact named (.inr rfl) reads.elements b.value?_elements distinct.elements

end PageBindings

/-!
## Discoveries
-/

theorem Coerce.keys_usable (read? : Json → Option Json) (fields : Fields) :
    ((usable read? fields).map (·.1)).Sublist (fields.map (·.1)) := by
  induction fields with
  | nil => exact .slnil
  | cons field rest ih =>
      obtain ⟨key, value⟩ := field
      simp only [usable, List.filterMap_cons] at ih ⊢
      cases read? value with
      | none => exact ih.cons key
      | some coerced => exact ih.cons_cons key

/-- Coerced filters and elements have each name once if the raw ones have. -/
theorem Coerce.once_value? {wire : String} (names : wire = "FILTERS" ∨ wire = "ELEMENTS")
    {raw coerced : Json} (keyed : Json.Keyed raw) (made : value? wire raw = some coerced) :
    coerced.Once := by
  have usables {read? : Json → Option Json} {fields inner : Fields} (once : Json.Once (.obj fields))
      (same : Json.obj (usable read? fields) = .obj inner) : (inner.map (·.1)).Nodup := by
    cases same
    exact (once fields rfl).sublist (keys_usable read? fields)
  intro inner same
  subst same
  rcases names with rfl | rfl
  · cases raw with
    | null => cases made
    | obj fields => exact usables keyed.once (Option.some.inj made)
    | _ =>
        cases made
        exact List.nodup_nil
  · cases raw with
    | obj fields => exact usables keyed.once (Option.some.inj made)
    | _ => cases made

namespace PageBindings

/-- A completed record is the first version, and it has each name once. -/
theorem complete_spec {now : Float} {raw : Fields} {url : String} {b : PageBindings}
    (keyed : ∀ field ∈ raw, Json.Keyed field.2) (made : complete now raw url = .ok b) :
    b.version = 1 ∧ b.Distinct := by
  obtain ⟨pattern, -, reads⟩ := complete_reads made
  generalize idOf now raw = id at reads
  have once {name : FieldName} (names : name.wire = "FILTERS" ∨ name.wire = "ELEMENTS")
      (others : ∀ key ∈ name.others, key ∉ wires) (value : Json)
      (found : name.value? (completed pattern id now raw) = some value) : value.Once := by
    rw [(wired_completed pattern id now raw).value?_eq others, find?_completed (by
      rcases names with same | same <;> rw [same] <;> decide)] at found
    rw [Complete.find?_fill (by rcases names with same | same <;> rw [same] <;> decide)] at found
    obtain ⟨field, there, -, coerced⟩ := Coerce.find?_fields found
    exact Coerce.once_value? names (keyed field there) coerced
  exact ⟨complete_version made, reads.filters.nodup (once (.inl rfl) (by decide)),
    reads.elements.nodup (once (.inr rfl) (by decide))⟩

end PageBindings

namespace Advisor

theorem readDiscovery_spec {now : Float} {url answer : String} {found : Discovery}
    (read : readDiscovery now url answer = .ok (.ok found)) :
    found.bindings.version = 1 ∧ found.bindings.Distinct := by
  obtain ⟨raw, given, made, -⟩ := readDiscovery_ok read
  cases Json.keyed_of_firstObject? given with
  | obj _ each => exact PageBindings.complete_spec each made

/-- Whatever the model answers, a record that is discovered is the first version and has each
name once. -/
theorem discover_spec {σ : Type} {advisor : Advisor σ} {snapshot : Option Snapshot}
    {world after : σ} {found : Discovery}
    (asked : advisor.discover snapshot world = (.ok (.ok found), after)) :
    found.bindings.version = 1 ∧ found.bindings.Distinct := by
  obtain ⟨_, _, _, -, -, read⟩ := discover_ok asked
  exact readDiscovery_spec read

end Advisor

/-!
## Runs
-/

namespace Session

variable {σ : Type} {host : Host σ}

theorem distinct_patch {clock : Clock σ} {session patched : Session σ} {changes : Fields}
    (distinct : session.bindings.Distinct) (accepted : session.patch clock changes = .ok patched) :
    patched.bindings.Distinct := by
  obtain ⟨bindings, merged, rfl⟩ := patch_merges accepted
  exact PageBindings.merge_distinct distinct merged

theorem distinct_move {session next : Session σ} (distinct : session.bindings.Distinct)
    (move : Move host session next) : next.bindings.Distinct := by
  cases move with
  | @repaired patched changes going accepted =>
      show patched.bindings.Distinct
      exact distinct_patch distinct accepted
  | timeChecked =>
      rcases session.checkTime_cases with ⟨-, same⟩ | ⟨-, same⟩
      all_goals
        rw [same]
        exact distinct
  | _ => exact distinct

/-- A run of a record that has each name once ends with such a record. -/
theorem execute_distinct (recipe : Recipe) {session : Session σ}
    (distinct : session.bindings.Distinct) :
    (execute host recipe session).2.bindings.Distinct := by
  obtain ⟨news, -, journey⟩ := @Tells.execute _ host recipe session
  have begun : (begin host recipe.limits session).2.bindings.Distinct := by
    rw [begin_bindings]
    exact distinct
  refine (journey.preserves (·.bindings.Distinct) distinct_move (fun command plain here => ?_)
    (fun here => here) begun).2
  obtain ⟨run, world, reached, -⟩ := command.run_deed host plain _
  rw [reached]
  exact here

end Session

end Gleaner
