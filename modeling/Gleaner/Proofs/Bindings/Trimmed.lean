import Gleaner.Proofs.Bindings.Coercion
import Gleaner.Proofs.Bindings.Record
import Gleaner.Proofs.Json.Written

/-!
# Written records coerced

A record is written with each key once and in capitals, so coercing what is written coerces
one value after the other and keeps their order. Texts are trimmed and those that say nothing
are left out of the details selectors and the elements, as is a filter that selects nothing;
everything else comes through as it is.
-/

set_option autoImplicit false

namespace Gleaner.PageBindings

open Text in
/-- What coercion makes of a record. -/
def trimmed (b : PageBindings) : PageBindings :=
  { b with
    id := strip b.id
    urlPattern := strip b.urlPattern
    searchBox := b.searchBox.map strip
    searchSubmit := b.searchSubmit.map strip
    list := strip b.list
    listItem := strip b.listItem
    listItemActive := b.listItemActive.map strip
    detailsPanel := b.detailsPanel.map strip
    detailsContent := (b.detailsContent.filter fun text => !isBlankText text).map strip
    filters := b.filters.filter fun entry => entry.2.selector ≠ ""
    elements := Entries.mapValues strip (b.elements.filter fun entry => !isBlankText entry.2)
    scrollContainer := b.scrollContainer.map strip
    loadMoreButton := b.loadMoreButton.map strip
    nextPageButton := b.nextPageButton.map strip
    closeDetailsButton := b.closeDetailsButton.map strip }

end Gleaner.PageBindings

namespace Gleaner.Coerce

/-!
## One value after the other
-/

theorem takeIn_known {done : Fields} {field : String × Json}
    (known : BindingKey.wire? field.1 = some field.1) (fresh : field.1 ∉ done.map (·.1)) :
    takeIn done field = done ++ ((value? field.1 field.2).map (field.1, ·)).toList := by
  simp only [takeIn, known]
  cases value? field.1 field.2 with
  | none => exact (List.append_nil done).symm
  | some value => exact Json.put_new value fresh

theorem takeIn_all {raw done : Fields} (once : ((done ++ raw).map (·.1)).Nodup)
    (known : ∀ field ∈ raw, BindingKey.wire? field.1 = some field.1) :
    raw.foldl takeIn done =
      done ++ raw.filterMap fun field => (value? field.1 field.2).map (field.1, ·) := by
  induction raw generalizing done with
  | nil => exact (List.append_nil done).symm
  | cons field rest ih =>
      obtain ⟨named, others⟩ := List.forall_mem_cons.mp known
      have fresh : field.1 ∉ done.map (·.1) := by
        rw [List.map_append, List.map_cons, List.nodup_append] at once
        exact fun found => once.2.2 _ found _ List.mem_cons_self rfl
      rw [List.foldl_cons, List.filterMap_cons, takeIn_known named fresh]
      cases value? field.1 field.2 with
      | none =>
          have without : ((done ++ rest).map (·.1)).Nodup :=
            once.sublist (((List.sublist_cons_self field rest).append_left done).map _)
          rw [Option.map_none, Option.toList_none, List.append_nil]
          exact ih without others
      | some value =>
          have kept : ((done ++ [(field.1, value)] ++ rest).map (·.1)).Nodup := by
            simpa only [List.map_append, List.map_cons, List.map_nil, List.append_assoc,
              List.cons_append, List.nil_append] using once
          rw [Option.map_some, Option.toList_some, ih kept others, List.append_assoc]
          rfl

/-- Fields with each key once and in capitals are coerced where they stand. -/
theorem fields_of_once {raw : Fields} (once : (raw.map (·.1)).Nodup)
    (known : ∀ field ∈ raw, BindingKey.wire? field.1 = some field.1) :
    fields raw = raw.filterMap fun field => (value? field.1 field.2).map (field.1, ·) :=
  takeIn_all once known

/-!
## What each value becomes
-/

/-- Under a key, the one value is coerced to the other, or both are left out. -/
def Becomes (key : String) (old new : Json) : Prop :=
  value? key old = if new.isNull then none else some new

section Values

variable {key : String}

theorem Becomes.nothing : Becomes key .null .null := rfl

theorem Becomes.same {value : Json} (given : value.isNull = false)
    (settled : value? key value = some value) : Becomes key value value := by
  rw [Becomes, given, settled]
  rfl

theorem Becomes.optional {α : Type} {encode : α → Json} {part : Option α} {value : Json}
    (written : value = (part.map encode).getD .null) (given : ∀ one, (encode one).isNull = false)
    (settled : ∀ one, value? key (encode one) = some (encode one)) : Becomes key value value := by
  subst written
  cases part with
  | none => exact .nothing
  | some one => exact .same (given one) (settled one)

theorem Becomes.text (plain : IsPlain key) (text : String) :
    Becomes key (.str text) (.str (Text.strip text)) :=
  value?_plain plain rfl

theorem Becomes.text? (plain : IsPlain key) (text : Option String) :
    Becomes key (.ofString? text) (.ofString? (text.map Text.strip)) := by
  cases text with
  | none => exact .nothing
  | some text => exact .text plain text

theorem Becomes.condition (condition : BindingKey.isCondition key = true)
    (part : Option StateCondition) {value : Json}
    (written : value = (part.map StateCondition.toJson).getD .null) : Becomes key value value := by
  refine .optional written StateCondition.isNull_toJson fun one => ?_
  rw [value?_condition condition one.isNull_toJson, StateCondition.coerce?_toJson]
  rfl

/-- A name that is written without blanks around it. -/
theorem Becomes.name {α : Type} (plain : IsPlain key) (name : α → String) (part : Option α)
    {value : Json} (written : value = (part.map (.str ∘ name)).getD .null)
    (bare : ∀ one, Text.strip (name one) = name one) : Becomes key value value := by
  refine .optional written (fun _ => rfl) fun one => ?_
  rw [value?_plain plain rfl]
  exact congrArg (fun text => some (Json.str text)) (bare one)

theorem trimmed?_str (text : String) :
    trimmed? (.str text) = if Text.isBlankText text then none else some (Text.strip text) := rfl

theorem Becomes.details (texts : List String) :
    Becomes "DETAILS_CONTENT" (.ofStrings texts)
      (.ofStrings ((texts.filter fun text => !Text.isBlankText text).map Text.strip)) := by
  have kept : (texts.map Json.str).filterMap trimmed? =
      (texts.filter fun text => !Text.isBlankText text).map Text.strip := by
    induction texts with
    | nil => rfl
    | cons text rest ih =>
        rw [List.map_cons, List.filterMap_cons, trimmed?_str, ih, List.filter_cons]
        cases Text.isBlankText text <;> rfl
  exact congrArg (fun texts => some (Json.ofStrings texts)) kept

theorem filter?_toJson (filter : FilterBinding) :
    filter? filter.toJson = if filter.selector ≠ "" then some filter.toJson else none := by
  obtain ⟨selector, kind, options⟩ := filter
  simp [FilterBinding.toJson, Json.compact, filter?, Entries.find?, Json.isNull, Json.truthy]

theorem Becomes.filters (filters : Entries FilterBinding) :
    Becomes "FILTERS" (.obj (filters.mapValues FilterBinding.toJson))
      (.obj (Entries.mapValues FilterBinding.toJson
        (filters.filter fun entry => entry.2.selector ≠ ""))) := by
  have kept : usable filter? (filters.mapValues FilterBinding.toJson) =
      Entries.mapValues FilterBinding.toJson
        (filters.filter fun entry => entry.2.selector ≠ "") := by
    induction filters with
    | nil => rfl
    | cons entry rest ih =>
        simp only [usable, Entries.mapValues, List.map_cons, List.filterMap_cons] at ih ⊢
        rw [filter?_toJson, ih, List.filter_cons]
        by_cases selects : entry.2.selector ≠ "" <;> simp [selects]
  exact congrArg (fun fields => some (Json.obj fields)) kept

theorem Becomes.elements (elements : Entries String) :
    Becomes "ELEMENTS" (.obj (elements.mapValues .str))
      (.obj (Entries.mapValues .str (Entries.mapValues Text.strip
        (elements.filter fun entry => !Text.isBlankText entry.2)))) := by
  have kept : usable (fun value => (trimmed? value).map .str) (elements.mapValues .str) =
      Entries.mapValues .str (Entries.mapValues Text.strip
        (elements.filter fun entry => !Text.isBlankText entry.2)) := by
    induction elements with
    | nil => rfl
    | cons entry rest ih =>
        simp only [usable, Entries.mapValues, List.map_cons, List.filterMap_cons] at ih ⊢
        rw [trimmed?_str, ih, List.filter_cons]
        cases Text.isBlankText entry.2 <;> rfl
  exact congrArg (fun fields => some (Json.obj fields)) kept

end Values

/-- Entry by entry, what is given is coerced to what is given. -/
theorem filterMap_becomes {old new : Fields}
    (each : List.Forall₂ (fun before after =>
      before.1 = after.1 ∧ Becomes before.1 before.2 after.2) old new) :
    (old.filter fun field => !field.2.isNull).filterMap
        (fun field => (value? field.1 field.2).map (field.1, ·)) =
      new.filter fun field => !field.2.isNull := by
  induction each with
  | nil => rfl
  | @cons before after _ _ first _ ih =>
      obtain ⟨key, old⟩ := before
      obtain ⟨key', new⟩ := after
      obtain ⟨rfl, becomes⟩ := first
      simp only [Becomes] at becomes
      have dropped : old.isNull = true → new.isNull = true := by
        intro null
        cases old with
        | null =>
            by_contra given
            rw [if_neg given] at becomes
            cases becomes
        | _ => cases null
      rw [List.filter_cons, List.filter_cons, ← ih]
      cases null : old.isNull with
      | true => simp [dropped null]
      | false =>
          simp only [Bool.not_false, if_true, List.filterMap_cons, becomes]
          cases new.isNull <;> rfl

end Gleaner.Coerce

namespace Gleaner.PageBindings

open Coerce

/-!
## Whole records
-/

theorem becomes_trimmed (b : PageBindings) :
    List.Forall₂ (fun before after => before.1 = after.1 ∧ Becomes before.1 before.2 after.2)
      b.allFields b.trimmed.allFields := by
  simp only [allFields, trimmed, List.forall₂_cons, List.Forall₂.nil, and_true, true_and]
  have number {key : String} {value : Json} (plain : IsPlain key) (given : value.isNull = false)
      (bare : trimText value = value) : Becomes key value value :=
    .same given ((value?_plain plain given).trans (congrArg some bare))
  exact ⟨.text ⟨rfl, by decide⟩ _, .text ⟨rfl, by decide⟩ _, number ⟨rfl, by decide⟩ rfl rfl,
    number ⟨rfl, by decide⟩ rfl rfl, .text? ⟨rfl, by decide⟩ _, .text? ⟨rfl, by decide⟩ _,
    .text ⟨rfl, by decide⟩ _, .text ⟨rfl, by decide⟩ _, .text? ⟨rfl, by decide⟩ _,
    .text? ⟨rfl, by decide⟩ _, .details _, .filters _, .elements _, .text? ⟨rfl, by decide⟩ _,
    .text? ⟨rfl, by decide⟩ _, .text? ⟨rfl, by decide⟩ _,
    .condition rfl b.states.pageLoaded (by cases b.states.pageLoaded <;> rfl),
    .condition rfl b.states.listLoaded (by cases b.states.listLoaded <;> rfl),
    .condition rfl b.states.listUpdated (by cases b.states.listUpdated <;> rfl),
    .condition rfl b.states.detailsLoaded (by cases b.states.detailsLoaded <;> rfl),
    .condition rfl b.states.noMoreItems (by cases b.states.noMoreItems <;> rfl),
    .condition rfl b.states.listEmpty (by cases b.states.listEmpty <;> rfl),
    .condition rfl b.states.loading (by cases b.states.loading <;> rfl),
    .optional rfl (fun _ => rfl) (fun _ => rfl),
    .name ⟨rfl, by decide⟩ ScrollBehavior.name b.scrollBehavior (by cases b.scrollBehavior <;> rfl)
      fun behavior => by cases behavior <;> decide +kernel,
    .name ⟨rfl, by decide⟩ ClickBehavior.name b.clickBehavior (by cases b.clickBehavior <;> rfl)
      fun behavior => by cases behavior <;> decide +kernel,
    .name ⟨rfl, by decide⟩ ReturnToList.name b.returnToList (by cases b.returnToList <;> rfl)
      fun way => by cases way <;> decide +kernel,
    .text? ⟨rfl, by decide⟩ _⟩

/-- What a record is written as is coerced to what the trimmed record is written as. -/
theorem fields_toFields (b : PageBindings) : Coerce.fields b.toFields = b.trimmed.toFields := by
  have once : (b.toFields.map (·.1)).Nodup := by
    refine List.Nodup.sublist (List.filter_sublist.map _) (?_ : (b.allFields.map (·.1)).Nodup)
    rw [keys_allFields]
    decide +kernel
  have known : ∀ field ∈ b.toFields, BindingKey.wire? field.1 = some field.1 := by
    intro field found
    have listed : field.1 ∈ b.allFields.map (·.1) :=
      List.mem_map_of_mem (List.mem_of_mem_filter found)
    rw [keys_allFields] at listed
    revert listed
    generalize field.1 = key
    revert key
    decide +kernel
  rw [fields_of_once once known]
  exact filterMap_becomes b.becomes_trimmed

end Gleaner.PageBindings
