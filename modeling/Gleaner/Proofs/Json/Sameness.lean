import Gleaner.Json.Same
import Gleaner.Proofs.Entries
import Mathlib.Data.List.Perm.Subperm

/-!
# Values that count as one

Two objects count as one if each has the other's keys and the same value under every key, in any
order; of what is written from texts only equal texts count as one.
-/

set_option autoImplicit false

namespace Gleaner.Json

/-!
## Objects
-/

theorem sameFields_iff {fields others : Fields} :
    sameFields fields others = true ↔
      ∀ field ∈ fields, ∃ value, Entries.find? field.1 others = some value ∧
        field.2.same value = true := by
  induction fields with
  | nil => exact ⟨fun _ => List.forall_mem_nil _, fun _ => rfl⟩
  | cons field rest ih =>
      obtain ⟨key, value⟩ := field
      rw [sameFields, Bool.and_eq_true, ih, Option.any_eq_true, List.forall_mem_cons]

section Objects

variable {fields others : Fields} (same : (obj fields).same (.obj others) = true)

include same

theorem length_of_same : fields.length = others.length := by
  rw [Json.same, Bool.and_eq_true, decide_eq_true_iff] at same
  exact same.1

theorem find?_of_same {key : String} {value : Json}
    (found : Entries.find? key fields = some value) :
    ∃ other, Entries.find? key others = some other ∧ value.same other = true := by
  rw [Json.same, Bool.and_eq_true] at same
  exact sameFields_iff.mp same.2 (key, value) (Entries.mem_of_find? found)

/-- As many keys that are all there are all that are there. -/
theorem find?_none_of_same (once : (fields.map (·.1)).Nodup) {key : String}
    (absent : Entries.find? key fields = none) : Entries.find? key others = none := by
  have known {key : String} (among : key ∈ fields.map (·.1)) :
      ∃ value, Entries.find? key fields = some value := by
    obtain ⟨⟨_, value⟩, there, rfl⟩ := List.mem_map.mp among
    exact ⟨value, Entries.find?_of_mem once there⟩
  have part : fields.map (·.1) ⊆ others.map (·.1) := by
    intro key among
    obtain ⟨value, found⟩ := known among
    obtain ⟨other, there, -⟩ := find?_of_same same found
    exact List.mem_map.mpr ⟨_, Entries.mem_of_find? there, rfl⟩
  have all : (fields.map (·.1)).Perm (others.map (·.1)) := by
    refine (List.subperm_of_subset once part).perm_of_length_le ?_
    rw [List.length_map, List.length_map]
    exact Nat.le_of_eq (length_of_same same).symm
  refine Entries.find?_eq_none fun among => ?_
  obtain ⟨value, found⟩ := known (all.mem_iff.mpr among)
  cases absent.symm.trans found

end Objects

/-!
## Texts
-/

theorem ofStrings_injective : Function.Injective ofStrings := by
  intro texts others same
  exact List.map_injective_iff.mpr (fun _ _ => Json.str.inj) (Json.arr.inj same)

theorem eq_of_same_str {text other : String} (same : (str text).same (.str other) = true) :
    text = other := by
  rw [Json.same, decide_eq_true_iff] at same
  exact same

theorem eq_of_same_ofStrings {texts others : List String}
    (same : (ofStrings texts).same (.ofStrings others) = true) : texts = others := by
  rw [ofStrings, ofStrings, Json.same] at same
  induction texts generalizing others with
  | nil =>
      cases others with
      | nil => rfl
      | cons other rest => cases same
  | cons text rest ih =>
      cases others with
      | nil => cases same
      | cons other others =>
          rw [List.map_cons, List.map_cons, sameItems, Bool.and_eq_true] at same
          rw [eq_of_same_str same.1, ih same.2]

/-- Of objects without what is unset, a text that may be unset is the same in both. -/
theorem eq_of_same_compact {fields others : Fields}
    (same : (compact fields).same (.compact others) = true) (once : (fields.map (·.1)).Nodup)
    (otherOnce : (others.map (·.1)).Nodup) (key : String) {text other : Option String}
    (found : Entries.find? key fields = some (.ofString? text))
    (there : Entries.find? key others = some (.ofString? other)) : text = other := by
  have written := Entries.find?_filter (fun value => !value.isNull) key once
  have otherWritten := Entries.find?_filter (fun value => !value.isNull) key otherOnce
  rw [found] at written
  rw [there] at otherWritten
  have left : ((fields.filter fun entry => !entry.2.isNull).map (·.1)).Nodup :=
    once.sublist (List.filter_sublist.map _)
  cases text with
  | none =>
      have absent := otherWritten.symm.trans (find?_none_of_same same left written)
      cases other with
      | none => rfl
      | some other => cases absent
  | some text =>
      obtain ⟨value, held, alike⟩ := find?_of_same same written
      cases other with
      | none => cases otherWritten.symm.trans held
      | some other =>
          cases otherWritten.symm.trans held
          exact congrArg some (eq_of_same_str alike)

end Gleaner.Json
