import Gleaner.Proofs.Bindings.Replay
import Gleaner.Proofs.Json.Sameness

/-!
# Patches that repeat what is there

A patch may name what a record has already: a part of its filters, of its elements or of its
details selectors, or a rule without what is filled in for it. Then the merged record has under
that key what the record had. Any other patch of the key changes what is written under it.
-/

set_option autoImplicit false

namespace Gleaner

/-!
## Parts that are written alike
-/

theorem FilterKind.name_injective : Function.Injective FilterKind.name := by
  intro kind other same
  cases kind <;> cases other <;> first | rfl | exact absurd same (by decide)

theorem IdSource.name_injective : Function.Injective IdSource.name := by
  intro source other same
  cases source <;> cases other <;> first | rfl | exact absurd same (by decide)

theorem FilterBinding.eq_of_same_toJson {filter other : FilterBinding}
    (same : filter.toJson.same other.toJson = true) : filter = other := by
  have once : ["selector", "type", "optionsSelector"].Nodup := by decide
  have selector : some filter.selector = some other.selector :=
    Json.eq_of_same_compact same once once "selector" rfl rfl
  have kind : some filter.kind.name = some other.kind.name :=
    Json.eq_of_same_compact same once once "type" rfl rfl
  have options : filter.optionsSelector = other.optionsSelector :=
    Json.eq_of_same_compact same once once "optionsSelector" rfl rfl
  obtain ⟨_, _, _⟩ := filter
  cases Option.some.inj selector
  cases FilterKind.name_injective (Option.some.inj kind)
  cases options
  rfl

theorem ItemIdRule.eq_of_same_toJson {rule other : ItemIdRule}
    (same : rule.toJson.same other.toJson = true) : rule = other := by
  have once : ["from", "selector", "attribute", "pattern"].Nodup := by decide
  have source : some rule.source.name = some other.source.name :=
    Json.eq_of_same_compact same once once "from" rfl rfl
  have selector : rule.selector = other.selector :=
    Json.eq_of_same_compact same once once "selector" rfl rfl
  have attrName : rule.attrName = other.attrName :=
    Json.eq_of_same_compact same once once "attribute" rfl rfl
  have pattern : rule.pattern = other.pattern :=
    Json.eq_of_same_compact same once once "pattern" rfl rfl
  obtain ⟨_, _, _, _⟩ := rule
  cases IdSource.name_injective (Option.some.inj source)
  cases selector
  cases attrName
  cases pattern
  rfl

/-!
## Entries that are there already
-/

/-- What is written like the entries that others were written over has these others already. -/
theorem Entries.find?_of_same_overlay {α : Type} {write : α → Json} {base updates : Entries α}
    (injective : ∀ {value other : α}, (write value).same (write other) = true → value = other)
    (once : (updates.map (·.1)).Nodup)
    (same : (Json.obj ((overlay base updates).mapValues write)).same
      (.obj (base.mapValues write)) = true) :
    ∀ entry ∈ updates, find? entry.1 base = some entry.2 := by
  intro entry among
  have laid : find? entry.1 (overlay base updates) = some entry.2 := by
    rw [find?_overlay, Json.ofPairs_new once, find?_of_mem once among, Option.some_or]
  have written : find? entry.1 ((overlay base updates).mapValues write) = some (write entry.2) := by
    rw [find?_mapValues, laid, Option.map_some]
  obtain ⟨other, found, alike⟩ := Json.find?_of_same same written
  rw [find?_mapValues] at found
  obtain ⟨value, there, rfl⟩ := Option.map_eq_some_iff.mp found
  rw [there, injective alike]

namespace PageBindings

/-!
## What a record has already
-/

/-- A value for a key that adds nothing to a record, although it may be written in another way than
what the record has: selectors that its details selectors begin with, filters or elements that are
among its own, or its own rule. A value that takes the place of another is no such part; but one for
what is about the record itself never adds anything, since no patch changes that. -/
def Repeats (b : PageBindings) (key : String) (value : Json) : Prop :=
  match key with
  | "DETAILS_CONTENT" =>
      ∃ selectors, value = .ofStrings selectors ∧
        selectors.eraseDups <+: b.detailsContent ∧ b.detailsContent.Nodup
  | "FILTERS" =>
      ∃ filters, Reading.entries FilterBinding.read value = .ok filters ∧
        ∀ filter ∈ filters, Entries.find? filter.1 b.filters = some filter.2
  | "ELEMENTS" =>
      ∃ elements, Reading.entries Reading.string value = .ok elements ∧
        ∀ element ∈ elements, Entries.find? element.1 b.elements = some element.2
  | "ITEM_ID" => ∃ rule, ItemIdRule.read value = .ok rule ∧ b.itemId = some rule
  | other => BindingKey.isMeta other = true

theorem repeats_of_isMeta {key : String} (isMeta : BindingKey.isMeta key = true) (b : PageBindings)
    (value : Json) : b.Repeats key value := by
  unfold Repeats
  split
  case h_5 => exact isMeta
  all_goals cases isMeta

section Taken

variable {key : String} {value : Json} {b merged : PageBindings}

theorem Takes.value?_of_repeats (takes : b.Takes key value merged)
    (settable : BindingKey.isMeta key = false) (repeats : b.Repeats key value) :
    merged.value? key = b.value? key := by
  unfold Repeats at repeats
  split at repeats
  next =>
    obtain ⟨selectors, rfl, begins⟩ := repeats
    obtain ⟨others, same, taken⟩ := takes
    obtain rfl : selectors = others := Json.ofStrings_injective same
    rw [value?_details, value?_details, taken, distinct_append_eq_self.mpr begins]
  next =>
    obtain ⟨filters, read, among⟩ := repeats
    obtain ⟨_, again, taken⟩ := takes
    cases read.symm.trans again
    rw [value?_filters, value?_filters, taken, Entries.overlay_eq_self among]
  next =>
    obtain ⟨elements, read, among⟩ := repeats
    obtain ⟨_, again, taken⟩ := takes
    cases read.symm.trans again
    rw [value?_elements, value?_elements, taken, Entries.overlay_eq_self among]
  next =>
    obtain ⟨rule, read, has⟩ := repeats
    obtain ⟨_, again, taken⟩ := takes
    cases read.symm.trans again
    rw [value?_itemId, value?_itemId, taken, has]
  next => cases settable.symm.trans repeats

/-- What is not there already changes what is written under the key, if it is not written like all
that is there. -/
theorem Takes.repeats_of_same (takes : b.Takes key value merged)
    (once : key = "FILTERS" ∨ key = "ELEMENTS" → value.Once)
    (proposed : value.same ((b.value? key).getD .null) = false)
    (same : ((merged.value? key).getD .null).same ((b.value? key).getD .null) = true) :
    b.Repeats key value := by
  unfold Takes at takes
  split at takes
  next =>
    obtain ⟨selectors, rfl, taken⟩ := takes
    rw [value?_details, value?_details] at same
    have kept : merged.detailsContent = b.detailsContent := Json.eq_of_same_ofStrings same
    exact ⟨selectors, rfl, distinct_append_eq_self.mp (taken.symm.trans kept)⟩
  next =>
    obtain ⟨filters, read, taken⟩ := takes
    rw [value?_filters, value?_filters, taken] at same
    exact ⟨filters, read, Entries.find?_of_same_overlay FilterBinding.eq_of_same_toJson
      (Reading.nodup_entries (once (.inl rfl)) read) same⟩
  next =>
    obtain ⟨elements, read, taken⟩ := takes
    rw [value?_elements, value?_elements, taken] at same
    exact ⟨elements, read, Entries.find?_of_same_overlay Json.eq_of_same_str
      (Reading.nodup_entries (once (.inr rfl)) read) same⟩
  next =>
    obtain ⟨rule, read, taken⟩ := takes
    rw [value?_itemId, value?_itemId, taken] at same
    refine ⟨rule, read, ?_⟩
    cases has : b.itemId with
    | none =>
        rw [has] at same
        cases same
    | some other =>
        rw [has] at same
        rw [ItemIdRule.eq_of_same_toJson same]
  next =>
    rw [takes] at same
    cases proposed.symm.trans same

end Taken

end PageBindings

end Gleaner
