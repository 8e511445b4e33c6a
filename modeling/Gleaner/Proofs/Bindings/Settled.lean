import Gleaner.Proofs.Bindings.Merging
import Gleaner.Proofs.Bindings.Trimmed

/-!
# Coerced fields are settled

Discovery, repair and merging coerce the same fields one after the other, so coercing a second
time must change nothing. Coerced fields stand under their capital keys, each key once, and
every value under its key is settled. The conditions among them are written conditions: what
coercion of a condition gives is exactly what some condition is written as.
-/

set_option autoImplicit false

namespace Gleaner

theorem BindingKey.wire?_of_mem_wires {key : String} (known : key ∈ PageBindings.wires) :
    wire? key = some key := by
  revert key
  decide +kernel

/-- The conditions that coercion leaves as they are are those that are written. -/
theorem StateCondition.coerced_iff_written {written : Json} :
    (coerce? written).map toJson = some written ↔ ∃ condition : StateCondition,
      condition.toJson = written := by
  constructor
  · intro same
    obtain ⟨condition, _, made⟩ := Option.map_eq_some_iff.mp same
    exact ⟨condition, made⟩
  · rintro ⟨condition, rfl⟩
    rw [coerce?_toJson]
    rfl

theorem StateCondition.reading_toJson (condition : StateCondition) :
    reading condition.toJson = .ok condition := by
  rw [reading, read?_toJson]

namespace Coerce

/-- Every coerced field stands under a capital key with a value that is settled there. -/
theorem settled_of_mem {raw : Fields} {field : String × Json} (found : field ∈ fields raw) :
    BindingKey.wire? field.1 = some field.1 ∧ value? field.1 field.2 = some field.2 := by
  obtain ⟨source, _, named, made⟩ := find?_fields (Entries.find?_of_mem (nodup_fields raw) found)
  exact ⟨BindingKey.wire?_of_mem_wires (BindingKey.mem_wires named), value?_settles _ _ _ made⟩

theorem filterMap_settled {done : Fields}
    (settled : ∀ field ∈ done, value? field.1 field.2 = some field.2) :
    (done.filterMap fun field => (value? field.1 field.2).map (field.1, ·)) = done := by
  induction done with
  | nil => rfl
  | cons field rest ih =>
      obtain ⟨here, others⟩ := List.forall_mem_cons.mp settled
      rw [List.filterMap_cons, here, Option.map_some, ih others]

/-- Coercing once more changes nothing, whatever the raw fields were; nor does coercing a
condition once more, which is in its written form, as every coerced field is that stands under
the key of a condition. -/
theorem fields_fields (raw : Fields) :
    fields (fields raw) = fields raw ∧
      (∀ value written, (StateCondition.coerce? value).map StateCondition.toJson = some written →
        (StateCondition.coerce? written).map StateCondition.toJson = some written ∧
        ∃ condition : StateCondition, condition.toJson = written ∧
          StateCondition.reading written = .ok condition) ∧
      ∀ key written, BindingKey.isCondition key = true →
        Entries.find? key (fields raw) = some written →
        ∃ condition : StateCondition, condition.toJson = written ∧
          StateCondition.reading written = .ok condition := by
  have readable {value written : Json}
      (made : (StateCondition.coerce? value).map StateCondition.toJson = some written) :
      ∃ condition : StateCondition, condition.toJson = written ∧
        StateCondition.reading written = .ok condition := by
    obtain ⟨condition, _, rfl⟩ := Option.map_eq_some_iff.mp made
    exact ⟨condition, rfl, condition.reading_toJson⟩
  refine ⟨?_, fun value written made => ⟨?_, readable made⟩, fun key written condition found => ?_⟩
  · rw [fields_of_once (nodup_fields raw) fun field found => (settled_of_mem found).1]
    exact filterMap_settled fun field found => (settled_of_mem found).2
  · obtain ⟨condition, form, _⟩ := readable made
    exact StateCondition.coerced_iff_written.mpr ⟨condition, form⟩
  · obtain ⟨⟨spelling, value⟩, _, _, made⟩ := find?_fields found
    have given : value.isNull = false := by
      cases value <;> first | rfl | cases made
    exact readable ((value?_condition condition given).symm.trans made)

/-- Two spellings of one key, a nested shorthand and a filter that is only a selector. -/
example :
    fields
        [("list_container", .str " ul "), ("LIST", .null),
          ("NO_MORE_ITEMS", .obj [("or", .arr [.str " .end ", .null])]),
          ("filters", .obj [("date", .str " .date ")])] =
      [("LIST", .str "ul"),
        ("NO_MORE_ITEMS", .obj [("or", .arr [.obj [("exists", .str ".end")]])]),
        ("FILTERS", .obj [("date", .obj [("selector", .str ".date")])])] := by
  rfl

end Coerce

end Gleaner
