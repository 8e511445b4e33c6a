import Gleaner.Schema.Numeral
import Gleaner.Schema.Problem
import Gleaner.Text.Literal

/-!
# Reading values by their form

Readings of single values and of the fields of objects. Readings are lenient where a value
of another kind has one meaning only: numbers and truth values may come as texts, and an
integer as a number without a fraction.
-/

set_option autoImplicit false

namespace Gleaner

/-- How a value is read. -/
abbrev Reading (α : Type) := Json → Checked α

namespace Reading

def string : Reading String
  | .str s => .ok s
  | _ => .complain .notText

private def integerOfFloat (x : Float) : Checked Int :=
  match Decimal.floor? x with
  | none => .complain .notFinite
  | some n =>
      if !(Decimal.ofInt n == x) then .complain .fractional
      else if n.natAbs < Decimal.twoPow 63 then .ok n
      else .complain .oversizedInteger

def int : Reading Int
  | .int n => .ok n
  | .bool b => .ok (if b then 1 else 0)
  | .float x => integerOfFloat x
  | .str s =>
      match Numeral.int? s with
      | some n => .ok n
      | none => .complain .unreadableInteger
  | _ => .complain .notInteger

def float : Reading Float
  | .int n => .ok (Decimal.ofInt n)
  | .bool b => .ok (if b then 1 else 0)
  | .float x => .ok x
  | .str s =>
      match Numeral.float? s with
      | some x => .ok x
      | none => .complain .unreadableNumber
  | _ => .complain .notNumber

def falseWords : List String := ["0", "off", "f", "false", "n", "no"]

def trueWords : List String := ["1", "on", "t", "true", "y", "yes"]

def bool : Reading Bool
  | .bool b => .ok b
  | .int n =>
      if n = 0 then .ok false else if n = 1 then .ok true else .complain .unreadableBoolean
  | .float x =>
      if x == 0 then .ok false else if x == 1 then .ok true else .complain .notBoolean
  | .str s =>
      let word := s.toLower
      if falseWords.contains word then .ok false
      else if trueWords.contains word then .ok true
      else .complain .unreadableBoolean
  | _ => .complain .notBoolean

def choice {α : Type} (choices : List (String × α)) : Reading α
  | .str s =>
      match Entries.find? s choices with
      | some value => .ok value
      | none => .complain (.notAmong (choices.map (·.1)))
  | _ => .complain (.notAmong (choices.map (·.1)))

/-- A natural number that is at least `least` and at most `most`. -/
def natural (least : Nat := 0) (most : Option Nat := none) : Reading Nat := fun value =>
  match int value with
  | .error problems => .failed problems
  | .ok n =>
      match most with
      | some bound =>
          if n > (bound : Int) then .complain (.above bound)
          else if n < (least : Int) then .complain (.below least)
          else .ok n.toNat
      | none => if n < (least : Int) then .complain (.below least) else .ok n.toNat

def orNull {α : Type} (read : Reading α) : Reading (Option α)
  | .null => .ok none
  | value => (read value).map some

/-- Reads the items of a list; each knows its place and that it is smaller than the list. -/
def eachIn {α : Type} (items : List Json)
    (read : (value : Json) → sizeOf value < sizeOf items → Checked α) (index : Nat := 0) :
    Checked (List α) :=
  match items, read with
  | [], _ => .ok []
  | item :: rest, read =>
      List.cons <$> (read item (by simp +arith)).under (.item index) <*>
        eachIn rest (fun value smaller => read value (by simp +arith; omega)) (index + 1)

def list {α : Type} (read : Reading α) : Reading (List α)
  | .arr items => eachIn items fun value _ => read value
  | _ => .complain .notList

def entries {α : Type} (read : Reading α) : Reading (Entries α)
  | .obj fields =>
      fields.foldr (fun (key, value) rest =>
        (fun v others => (key, v) :: others) <$> (read value).under (.field key) <*> rest) (.ok [])
  | _ => .complain .notObject

end Reading

/-- The spellings of a field: the one it is written under, and others it is found under. -/
structure FieldName where
  wire : String
  others : List String := []

instance : Coe String FieldName := ⟨fun wire => ⟨wire, []⟩⟩

namespace FieldName

def spellings (name : FieldName) : List String := name.wire :: name.others

/-- A field as it was found: the spelling it stands under, and its value with the bound that
readings of nested values go by. -/
structure Hit (fields : Fields) where
  spelling : String
  value : Json
  smaller : sizeOf value < sizeOf fields

/-- The field under the first of the spellings that is there. -/
def find? (name : FieldName) (fields : Fields) : Option (Hit fields) :=
  name.spellings.findSome? fun key =>
    match found : Entries.find? key fields with
    | some value => some ⟨key, value, Entries.find?_sizeOf_lt found⟩
    | none => none

end FieldName

namespace Fields

variable {α : Type}

/-- A field that must be there; its reading may rely on the value being smaller. Problems are
placed under the spelling that was found. -/
def requiredIn (fields : Fields) (name : FieldName)
    (read : (value : Json) → sizeOf value < sizeOf fields → Checked α) : Checked α :=
  match name.find? fields with
  | some hit => (read hit.value hit.smaller).under (.field hit.spelling)
  | none => (Checked.complain .missing).under (.field name.wire)

/-- A field with a value for when it is absent. -/
def optionalIn (fields : Fields) (name : FieldName) (default : α)
    (read : (value : Json) → sizeOf value < sizeOf fields → Checked α) : Checked α :=
  match name.find? fields with
  | some hit => (read hit.value hit.smaller).under (.field hit.spelling)
  | none => .ok default

def required (fields : Fields) (name : FieldName) (read : Reading α) : Checked α :=
  requiredIn fields name fun value _ => read value

def optional (fields : Fields) (name : FieldName) (default : α) (read : Reading α) : Checked α :=
  optionalIn fields name default fun value _ => read value

def itemsIn (value : Json) (fields : Fields) (smaller : sizeOf value < sizeOf fields)
    (read : (item : Json) → sizeOf item < sizeOf fields → Checked α) : Checked (List α) :=
  match value, smaller with
  | .arr items, smaller =>
      Reading.eachIn items fun item inside =>
        read item (by simp only [Json.arr.sizeOf_spec] at smaller; omega)
  | _, _ => .complain .notList

def requiredList (fields : Fields) (name : FieldName)
    (read : (item : Json) → sizeOf item < sizeOf fields → Checked α) : Checked (List α) :=
  requiredIn fields name fun value smaller => itemsIn value fields smaller read

def optionalList (fields : Fields) (name : FieldName)
    (read : (item : Json) → sizeOf item < sizeOf fields → Checked α) : Checked (List α) :=
  optionalIn fields name [] fun value smaller => itemsIn value fields smaller read

end Fields

end Gleaner
