import Gleaner.Proofs.Entries
import Gleaner.Proofs.Json.Embedded

/-!
# Keys of what is read

No text is read as an object that has a key twice, at any depth: of two fields with one key the
reader keeps one. So whatever was read can be written and read again.
-/

set_option autoImplicit false

namespace Gleaner.Json

theorem keyed_of_scanNumber {negative : Bool} {cs rest : List Char} {value : Json}
    (scanned : scanNumber negative cs = some (value, rest)) : Keyed value := by
  unfold scanNumber at scanned
  dsimp only at scanned
  repeat' split at scanned
  all_goals simp only [reduceCtorEq, Option.some.injEq, Prod.mk.injEq] at scanned
  all_goals rw [← scanned.1]
  all_goals first
    | exact .int _
    | exact .float _

theorem keyed_of_scanWord {cs rest : List Char} {value : Json}
    (scanned : scanWord cs = .ok (value, rest)) : Keyed value := by
  have number {negative : Bool} {digits : List Char}
      (scanned : (scanNumber negative digits).elim (stop .expectingValue cs) .ok =
        .ok (value, rest)) : Keyed value := by
    cases found : scanNumber negative digits with
    | none =>
        rw [found] at scanned
        cases scanned
    | some read =>
        rw [found] at scanned
        cases scanned
        exact keyed_of_scanNumber found
  unfold scanWord at scanned
  split at scanned
  case h_7 => exact number scanned
  case h_8 => exact number scanned
  all_goals cases scanned
  · exact .null
  · exact .bool true
  · exact .bool false
  all_goals exact .float _

/-- Every object in what a piece spells has each key once. -/
def Sense.Keyed : Sense → Prop
  | .value v => Json.Keyed v
  | .items list => ∀ item ∈ list, Json.Keyed item
  | .fields pairs => ∀ pair ∈ pairs, Json.Keyed pair.2
  | .field _ v => Json.Keyed v

theorem keyed_ofPairs {pairs : List (String × Json)} (each : ∀ pair ∈ pairs, Keyed pair.2) :
    Keyed (.obj (Entries.ofPairs pairs)) :=
  .obj (Entries.nodup_overlay pairs List.nodup_nil) fun entry found =>
    (Entries.mem_overlay found).elim (each entry) fun none => absurd none List.not_mem_nil

theorem Spells.keyed {piece : List Char} {sense : Sense} (spells : Spells piece sense) :
    sense.Keyed := by
  induction spells with
  | text quoted => exact Json.Keyed.str _
  | @word piece value word =>
      have scanned : scanWord (piece ++ []) = .ok (value, []) :=
        word.scans [] fun c found => absurd found (by simp)
      exact keyed_of_scanWord scanned
  | emptyList isGap => exact Json.Keyed.arr (List.forall_mem_nil _)
  | list isGap _ items => exact Json.Keyed.arr items
  | emptyObject isGap => exact Json.Keyed.obj List.nodup_nil (List.forall_mem_nil _)
  | object isGap _ fields => exact keyed_ofPairs fields
  | lastItem _ _ value => exact List.forall_mem_singleton.mpr value
  | moreItems _ _ _ _ value others => exact List.forall_mem_cons.mpr ⟨value, others⟩
  | field _ _ _ _ value => exact value
  | lastField _ _ value => exact List.forall_mem_singleton.mpr value
  | moreFields _ _ _ _ value others => exact List.forall_mem_cons.mpr ⟨value, others⟩

theorem keyed_of_scanAll {cs : List Char} {value : Json} (scanned : scanAll cs = .ok value) :
    Keyed value := by
  unfold scanAll at scanned
  split at scanned
  · cases scanned
  · obtain ⟨⟨first, left⟩, valued, ends⟩ := bind_ok scanned
    obtain ⟨piece, -, spelled⟩ := (spells_of_scan _).1 valued
    dsimp only at ends
    split at ends
    · cases ends
      exact spelled.keyed
    · cases ends

/-- A text is read as a value whose objects have each key once. -/
theorem keyed_of_read {text : String} {value : Json} (made : read text = .ok value) :
    Keyed value := by
  unfold read at made
  split at made
  next scanned =>
    cases made
    exact keyed_of_scanAll scanned
  next => cases made

/-- So has the object that is found in prose. -/
theorem keyed_of_firstObject? {text : String} {fields : Fields}
    (found : firstObject? text = some fields) : Keyed (.obj fields) := by
  obtain ⟨place, ⟨-, stop, -, -, scanned⟩, -⟩ := firstObjectIn?_eq_some_iff.mp found
  exact keyed_of_scanAll scanned

end Gleaner.Json
