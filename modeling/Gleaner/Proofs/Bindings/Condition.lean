import Gleaner.Bindings.StateCondition
import Gleaner.Proofs.Schema.Reading

/-!
# Conditions as they are written

A condition that is written is read as itself, both strictly and with the shorthands.
-/

set_option autoImplicit false

namespace Gleaner.StateCondition

theorem ofThreshold?_written (selector : String) (count : Nat) :
    ofThreshold? "countAtLeast" [("selector", .str selector), ("count", .int count)] =
      some (.countAtLeast selector count) := by
  have read : (Reading.natural 0 none (.int count)).toOption = some count := by
    rw [Reading.natural_int (Nat.zero_le count)]
    rfl
  simp only [ofThreshold?, Entries.find?, String.reduceEq, ↓reduceIte, read, Option.map_some]
  rfl

theorem isNull_toJson (condition : StateCondition) : condition.toJson.isNull = false := by
  cases condition <;> rfl

mutual

theorem read?_toJson (condition : StateCondition) : read? condition.toJson = some condition := by
  cases condition with
  | present selector => rfl
  | visible selector => rfl
  | gone selector => rfl
  | countChanged selector => rfl
  | countAtLeast selector count => exact ofThreshold?_written selector count
  | urlContains text => rfl
  | urlMatches pattern => rfl
  | allOf parts =>
      rw [toJson, read?, readAll?_listToJson]
      rfl
  | anyOf parts =>
      rw [toJson, read?, readAll?_listToJson]
      rfl

theorem readAll?_listToJson (parts : List StateCondition) :
    readAll? (listToJson parts) = some parts := by
  cases parts with
  | nil => rfl
  | cons part rest =>
      rw [listToJson, readAll?, read?_toJson, readAll?_listToJson]
      rfl

end

mutual

theorem coerce?_toJson (condition : StateCondition) :
    coerce? condition.toJson = some condition := by
  cases condition with
  | present selector => rfl
  | visible selector => rfl
  | gone selector => rfl
  | countChanged selector => rfl
  | countAtLeast selector count => exact ofThreshold?_written selector count
  | urlContains text => rfl
  | urlMatches pattern => rfl
  | allOf parts =>
      rw [toJson, coerce?, coerceAll_listToJson]
      rfl
  | anyOf parts =>
      rw [toJson, coerce?, coerceAll_listToJson]
      rfl

theorem coerceAll_listToJson (parts : List StateCondition) :
    coerceAll (listToJson parts) = parts := by
  cases parts with
  | nil => rfl
  | cons part rest =>
      rw [listToJson, coerceAll, coerce?_toJson, coerceAll_listToJson]

end

end Gleaner.StateCondition
