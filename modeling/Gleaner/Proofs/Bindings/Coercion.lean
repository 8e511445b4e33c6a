import Gleaner.Bindings.Merge
import Gleaner.Proofs.Bindings.Condition
import Gleaner.Proofs.Entries
import Gleaner.Proofs.Text.Trim

/-!
# Coercion is done once

A coerced value is coerced to itself, whatever shape it came in: what was trimmed is trimmed,
what was left out stays out, and a shorthand that was written out is no shorthand any more.
-/

set_option autoImplicit false

namespace Gleaner.Coerce

theorem trimmed?_eq_some {value : Json} {text : String} (trimmed : trimmed? value = some text) :
    ∃ raw, value = .str raw ∧ Text.isBlankText raw = false ∧ Text.strip raw = text := by
  cases value with
  | str raw =>
      rw [trimmed?] at trimmed
      by_cases blank : Text.isBlankText raw = true
      · rw [if_pos blank] at trimmed
        cases trimmed
      · rw [if_neg blank] at trimmed
        exact ⟨raw, rfl, Bool.eq_false_iff.mpr blank, Option.some.inj trimmed⟩
  | _ => cases trimmed

theorem trimmed?_again {value : Json} {text : String} (trimmed : trimmed? value = some text) :
    trimmed? (.str text) = some text := by
  obtain ⟨raw, rfl, some, rfl⟩ := trimmed?_eq_some trimmed
  rw [trimmed?, Text.isBlankText_strip, some, Text.strip_strip]
  rfl

/-- A text that is trimmed says something and has no blanks around it. -/
theorem solid_of_trimmed? {value : Json} {text : String} (trimmed : trimmed? value = some text) :
    Text.isBlankText text = false ∧ Text.strip text = text := by
  obtain ⟨raw, -, solid, rfl⟩ := trimmed?_eq_some trimmed
  exact ⟨(Text.isBlankText_strip raw).trans solid, Text.strip_strip raw⟩

/-- What a coercion gives, it gives again from that. -/
def Settles (coerce? : Json → Option Json) : Prop :=
  ∀ value coerced, coerce? value = some coerced → coerce? coerced = some coerced

theorem itemId?_settles : Settles itemId? := by
  intro value coerced made
  have object : ∃ fields, coerced = .obj fields := by
    cases value with
    | obj fields => exact ⟨fields, (Option.some.inj made).symm⟩
    | str raw =>
        unfold itemId? at made
        obtain ⟨text, _, made⟩ := Option.map_eq_some_iff.mp made
        split at made <;> exact ⟨_, made.symm⟩
    | _ => cases made
  obtain ⟨fields, rfl⟩ := object
  rfl

theorem filter?_settles : Settles filter? := by
  intro value coerced made
  cases value with
  | obj fields =>
      have same := made
      rw [filter?] at made
      split at made
      next => cases made; exact same
      next => cases made
  | str raw =>
      unfold filter? at made
      obtain ⟨text, trimmed, rfl⟩ := Option.map_eq_some_iff.mp made
      obtain ⟨_, _, some, rfl⟩ := trimmed?_eq_some trimmed
      simp [filter?, Entries.find?, Json.truthy, Text.strip_ne_empty some]
  | _ => cases made

theorem element?_settles : Settles fun value => (trimmed? value).map .str := by
  intro value coerced made
  obtain ⟨text, trimmed, rfl⟩ := Option.map_eq_some_iff.mp made
  exact congrArg (Option.map Json.str) (trimmed?_again trimmed)

/-- Entries that are all usable as they stand have settled values. -/
theorem settled_of_usable {coerce? : Json → Option Json} (settles : Settles coerce?)
    {entries : Fields} (kept : usable coerce? entries = entries) :
    ∀ entry ∈ entries, coerce? entry.2 = some entry.2 := by
  intro entry among
  rw [← kept] at among
  obtain ⟨source, -, made⟩ := List.mem_filterMap.mp among
  obtain ⟨value, coerced, rfl⟩ := Option.map_eq_some_iff.mp made
  exact settles source.2 value coerced

theorem usable_again {coerce? : Json → Option Json} (settles : Settles coerce?) (fields : Fields) :
    usable coerce? (usable coerce? fields) = usable coerce? fields := by
  induction fields with
  | nil => rfl
  | cons field rest ih =>
      obtain ⟨key, value⟩ := field
      simp only [usable, List.filterMap_cons] at ih ⊢
      cases made : coerce? value with
      | none => exact ih
      | some coerced =>
          simp only [Option.map_some, List.filterMap_cons, settles value coerced made]
          exact congrArg _ ih

theorem texts_again (items : List Json) :
    ((items.filterMap trimmed?).map Json.str).filterMap trimmed? = items.filterMap trimmed? := by
  induction items with
  | nil => rfl
  | cons item rest ih =>
      rw [List.filterMap_cons]
      cases made : trimmed? item with
      | none => exact ih
      | some text =>
          rw [List.map_cons, List.filterMap_cons, trimmed?_again made]
          exact congrArg _ ih

/-!
## Values by their keys
-/

/-- What is coerced to something is no null. -/
theorem given_of_value? {wire : String} {value coerced : Json}
    (made : value? wire value = some coerced) : value.isNull = false := by
  cases value with
  | null => cases made
  | _ => rfl

theorem value?_condition {wire : String} (condition : BindingKey.isCondition wire = true)
    {value : Json} (given : value.isNull = false) :
    value? wire value = (StateCondition.coerce? value).map StateCondition.toJson := by
  unfold value?
  rw [if_neg (Bool.eq_false_iff.mp given), if_pos condition]

/-- A key whose value may be any text, or a value that only reading it refuses. -/
def IsPlain (wire : String) : Prop :=
  BindingKey.isCondition wire = false ∧
    wire ∉ ["ITEM_ID", "DETAILS_CONTENT", "FILTERS", "ELEMENTS"]

/-- A text trimmed, and any other value as it is. -/
def trimText : Json → Json
  | .str text => .str (Text.strip text)
  | other => other

theorem isNull_trimText (value : Json) : (trimText value).isNull = value.isNull := by
  cases value <;> rfl

theorem trimText_trimText (value : Json) : trimText (trimText value) = trimText value := by
  cases value with
  | str text => exact congrArg Json.str (Text.strip_strip text)
  | _ => rfl

theorem value?_plain {wire : String} (plain : IsPlain wire) {value : Json}
    (given : value.isNull = false) : value? wire value = some (trimText value) := by
  obtain ⟨noCondition, single⟩ := plain
  simp only [List.mem_cons, List.not_mem_nil, or_false, not_or] at single
  obtain ⟨noRule, noList, noFilters, noElements⟩ := single
  unfold value?
  rw [if_neg (Bool.eq_false_iff.mp given), if_neg (Bool.eq_false_iff.mp noCondition),
    if_neg noRule, if_neg noList, if_neg noFilters, if_neg noElements]
  cases value <;> rfl

theorem conditions_settle {wire : String} (condition : BindingKey.isCondition wire = true) :
    Settles (value? wire) := by
  intro value coerced made
  rw [value?_condition condition (given_of_value? made)] at made
  obtain ⟨read, _, rfl⟩ := Option.map_eq_some_iff.mp made
  rw [value?_condition condition read.isNull_toJson, StateCondition.coerce?_toJson]
  rfl

theorem rules_settle : Settles (value? "ITEM_ID") := by
  have rule : value? "ITEM_ID" = itemId? := by
    funext value
    cases value <;> rfl
  rw [rule]
  exact itemId?_settles

theorem details_settle : Settles (value? "DETAILS_CONTENT") := by
  intro value coerced made
  have listed : ∃ items : List Json, coerced = .ofStrings (items.filterMap trimmed?) := by
    cases value with
    | str text =>
        refine ⟨[.str text], (Option.some.inj made).symm.trans (congrArg Json.ofStrings ?_)⟩
        rw [List.filterMap_cons]
        cases trimmed? (.str text) <;> rfl
    | arr items => exact ⟨items, (Option.some.inj made).symm⟩
    | _ => cases made
  obtain ⟨items, rfl⟩ := listed
  exact congrArg (fun texts => some (Json.ofStrings texts)) (texts_again items)

theorem filters_settle : Settles (value? "FILTERS") := by
  intro value coerced made
  have listed : ∃ fields, coerced = .obj (usable filter? fields) := by
    cases value with
    | null => cases made
    | obj fields => exact ⟨fields, (Option.some.inj made).symm⟩
    | _ => exact ⟨[], (Option.some.inj made).symm⟩
  obtain ⟨fields, rfl⟩ := listed
  exact congrArg (fun fields => some (Json.obj fields)) (usable_again filter?_settles fields)

theorem elements_settle : Settles (value? "ELEMENTS") := by
  intro value coerced made
  cases value with
  | obj fields =>
      cases made
      exact congrArg (fun fields => some (Json.obj fields)) (usable_again element?_settles fields)
  | _ => cases made

theorem plain_settles {wire : String} (plain : IsPlain wire) : Settles (value? wire) := by
  intro value coerced made
  have given := given_of_value? made
  rw [value?_plain plain given] at made
  cases made
  rw [value?_plain plain ((isNull_trimText value).trans given), trimText_trimText]

/-- The value of every key is coerced to itself once it has been coerced. -/
theorem value?_settles (wire : String) : Settles (value? wire) := by
  cases condition : BindingKey.isCondition wire with
  | true => exact conditions_settle condition
  | false =>
      by_cases special : wire ∈ ["ITEM_ID", "DETAILS_CONTENT", "FILTERS", "ELEMENTS"]
      · simp only [List.mem_cons, List.not_mem_nil, or_false] at special
        rcases special with rfl | rfl | rfl | rfl
        · exact rules_settle
        · exact details_settle
        · exact filters_settle
        · exact elements_settle
      · exact plain_settles ⟨condition, special⟩

/-!
## Fields
-/

/-- The fields with one more raw field taken in. -/
def takeIn (done : Fields) (field : String × Json) : Fields :=
  match BindingKey.wire? field.1 with
  | none => done
  | some wire =>
      match value? wire field.2 with
      | some value => Entries.put wire value done
      | none => done

theorem find?_takeIn {key : String} {done : Fields} {field : String × Json} {coerced : Json}
    (found : Entries.find? key (takeIn done field) = some coerced) :
    Entries.find? key done = some coerced ∨
      BindingKey.wire? field.1 = some key ∧ value? key field.2 = some coerced := by
  unfold takeIn at found
  split at found
  next => exact .inl found
  next wire named =>
    split at found
    next value made =>
      rw [Entries.find?_put] at found
      split at found
      next same =>
        subst same
        exact .inr ⟨named, made.trans found⟩
      next => exact .inl found
    next => exact .inl found

theorem find?_takeIn_all {key : String} {raw done : Fields} {coerced : Json}
    (found : Entries.find? key (raw.foldl takeIn done) = some coerced) :
    Entries.find? key done = some coerced ∨
      ∃ field ∈ raw, BindingKey.wire? field.1 = some key ∧ value? key field.2 = some coerced := by
  induction raw generalizing done with
  | nil => exact .inl found
  | cons field rest ih =>
      rcases ih found with earlier | ⟨other, later, source⟩
      · rcases find?_takeIn earlier with earlier | source
        · exact .inl earlier
        · exact .inr ⟨field, List.mem_cons_self, source⟩
      · exact .inr ⟨other, List.mem_cons_of_mem _ later, source⟩

/-- Every coerced field comes from a value under one of the spellings of its key. -/
theorem find?_fields {key : String} {raw : Fields} {coerced : Json}
    (found : Entries.find? key (fields raw) = some coerced) :
    ∃ field ∈ raw, BindingKey.wire? field.1 = some key ∧ value? key field.2 = some coerced := by
  have all : Entries.find? key (raw.foldl takeIn []) = some coerced := found
  rcases find?_takeIn_all all with impossible | source
  · cases impossible
  · exact source

/-!
## What coerced fields hold
-/

section Coerced

variable {raw : Fields}

theorem settled_of_find? {key : String} {value : Json}
    (found : Entries.find? key (fields raw) = some value) : value? key value = some value := by
  obtain ⟨field, -, -, coerced⟩ := find?_fields found
  exact value?_settles key field.2 value coerced

theorem coerced_strip {key text : String} (plain : IsPlain key)
    (found : Entries.find? key (fields raw) = some (.str text)) : Text.strip text = text := by
  have settled := settled_of_find? found
  rw [value?_plain plain rfl] at settled
  exact Json.str.inj (Option.some.inj settled)

theorem coerced_selectors {selectors : List String}
    (found : Entries.find? "DETAILS_CONTENT" (fields raw) = some (.ofStrings selectors)) :
    ∀ selector ∈ selectors, Text.isBlankText selector = false ∧ Text.strip selector = selector := by
  have settled := settled_of_find? found
  have trimmed : (selectors.map Json.str).filterMap trimmed? = selectors :=
    List.map_injective_iff.mpr (fun _ _ => Json.str.inj) (Json.arr.inj (Option.some.inj settled))
  intro selector among
  rw [← trimmed] at among
  obtain ⟨value, -, made⟩ := List.mem_filterMap.mp among
  exact solid_of_trimmed? made

theorem coerced_filters {entries : Fields}
    (found : Entries.find? "FILTERS" (fields raw) = some (.obj entries)) :
    ∀ entry ∈ entries, filter? entry.2 = some entry.2 := by
  have settled := settled_of_find? found
  exact settled_of_usable filter?_settles (Json.obj.inj (Option.some.inj settled))

theorem coerced_elements {entries : Fields}
    (found : Entries.find? "ELEMENTS" (fields raw) = some (.obj entries)) :
    ∀ entry ∈ entries, (trimmed? entry.2).map .str = some entry.2 := by
  have settled := settled_of_find? found
  exact settled_of_usable element?_settles (Json.obj.inj (Option.some.inj settled))

end Coerced

/-- What is settled for a key stays as it is. -/
theorem fields_of_settled {key : String} {value : Json} (known : BindingKey.wire? key = some key)
    (settled : value? key value = some value) : fields [(key, value)] = [(key, value)] := by
  simp [fields, known, settled, Entries.put]

end Gleaner.Coerce

theorem Gleaner.Patch.changes_of_settled {key : String} {value : Json}
    (known : BindingKey.wire? key = some key) (settable : BindingKey.isMeta key = false)
    (settled : Coerce.value? key value = some value) :
    changes [(key, value)] = [(key, value)] := by
  rw [changes, Coerce.fields_of_settled known settled, List.filter_cons, settable]
  rfl
