import Gleaner.Bindings.Examples
import Gleaner.Proofs.Bindings.Trimmed
import Gleaner.Proofs.Harvest.Effect
import Gleaner.Proofs.Json.Indented

/-!
# What a record goes through unchanged

A record is written, read, stored, loaded and patched with nothing, and its bindings are what
they were. Coercing what is written is another matter: that trims, so a record comes through it
only when there is nothing to trim.
-/

set_option autoImplicit false

namespace Gleaner

namespace PageBindings

/-- A patch that names nothing makes a new version of the same bindings. -/
theorem merge_nothing (now : Float) (b : PageBindings) :
    b.merge now [] = .ok { b with version := b.version + 1, updatedAt := now } :=
  merge_of_no_change rfl

theorem toFields_injective {b other : PageBindings} (same : b.toFields = other.toFields) :
    b = other := by
  have read := ofFields_toFields 0 b
  rw [same, ofFields_toFields] at read
  exact (Except.ok.inj read).symm

end PageBindings

namespace Medium

variable {τ : Type} {medium : Medium τ}

/-- A record that is stored is found under its id at any later time. -/
theorem Shipped.get_put (shipped : medium.Shipped) {now : Float} {b : PageBindings}
    (distinct : b.Distinct) {expected : Option Int} {kept changed : τ}
    (stored : medium.put now b expected kept = .ok changed) (later : Float) :
    medium.get later b.id changed = .ok (some b) := by
  obtain ⟨records, loaded, rfl⟩ := put_eq_ok stored
  have there := shipped.load_put loaded (fun _ => distinct) later
  rw [get, there]
  show Except.ok (Entries.find? b.id (Entries.put b.id b records)) = _
  rw [Entries.find?_put, if_pos rfl]

end Medium

namespace PageBindings

/-- The bindings of a record survive being written and read, in one line or in many, being
stored and loaded at any later time, and a patch that names nothing; each of its conditions
survives coercion. Coercing what is written makes the trimmed record, so a record that is
trimmed survives that too. -/
theorem wire_keeps {b : PageBindings} (distinct : b.Distinct) :
    (∀ now, ofJson now b.toJson = .ok b) ∧
      Json.read b.toJson.write = .ok b.toJson ∧
      (∀ step, Json.read (b.toJson.writeIndented step) = .ok b.toJson) ∧
      (∀ condition : StateCondition,
        (StateCondition.coerce? condition.toJson).map StateCondition.toJson =
          some condition.toJson) ∧
      (∀ (τ : Type) (medium : Medium τ), medium.Shipped → ∀ now expected kept changed,
        medium.put now b expected kept = .ok changed →
          ∀ later, medium.get later b.id changed = .ok (some b)) ∧
      (∀ now, b.merge now [] = .ok { b with version := b.version + 1, updatedAt := now }) ∧
      Coerce.fields b.toFields = b.trimmed.toFields ∧
      (Coerce.fields b.toFields = b.toFields ↔ b.trimmed = b) := by
  have keyed : Json.Keyed b.toJson := keyed_toJson distinct
  refine ⟨fun now => b.ofJson_toJson now, Json.read_write keyed, ?_, ?_, ?_,
    fun now => b.merge_nothing now, b.fields_toFields, ?_⟩
  · intro step
    exact Json.read_writeIndented step keyed
  · intro condition
    rw [condition.coerce?_toJson]
    rfl
  · intro τ medium shipped now expected kept changed stored later
    exact shipped.get_put distinct stored later
  · rw [b.fields_toFields]
    constructor
    · intro same
      exact toFields_injective same
    · intro same
      rw [same]

theorem wire_keeps_linkedinJobs :
    (Examples.linkedinJobs 0).Distinct ∧
      Json.read (Examples.linkedinJobs 0).toJson.write = .ok (Examples.linkedinJobs 0).toJson ∧
      ofJson 1 (Examples.linkedinJobs 0).toJson = .ok (Examples.linkedinJobs 0) ∧
      Coerce.fields (Examples.linkedinJobs 0).toFields = (Examples.linkedinJobs 0).toFields := by
  have distinct : (Examples.linkedinJobs 0).Distinct := ⟨by decide, by decide⟩
  obtain ⟨made, oneLine, -, -, -, -, -, coerced⟩ := wire_keeps distinct
  refine ⟨distinct, oneLine, made 1, coerced.mpr ?_⟩
  rfl

/-- A selector with blanks around it does not survive coercion. -/
theorem blanks_trimmed :
    Coerce.fields (toFields { updatedAt := 0, list := " #list " }) ≠
      toFields { updatedAt := 0, list := " #list " } := by
  intro same
  have found := congrArg (Entries.find? "LIST") same
  rw [fields_toFields] at found
  have trimmed : Json.str (Text.strip " #list ") = .str " #list " := Option.some.inj found
  exact absurd (Json.str.inj trimmed) (by decide +kernel)

end PageBindings

end Gleaner
