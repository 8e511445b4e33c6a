import Gleaner.Decimal.Number
import Gleaner.Json.Value

/-!
# Sameness of values

When two JSON values count as one: numbers by their value, whatever their kind (and truth
values as zero and one), lists item by item, objects by the values under each key, in any
order of the keys.
-/

set_option autoImplicit false

namespace Gleaner.Json

def number? : Json → Option Number
  | .bool b => some (.int (if b then 1 else 0))
  | .int n => some (.int n)
  | .float x => some (.float x)
  | _ => none

def sameNumber : Number → Number → Bool
  | .int a, .int b => a = b
  | .float a, .float b => a == b
  | .int a, .float b => Decimal.toInt? b = some a
  | .float a, .int b => Decimal.toInt? a = some b

mutual

def same : Json → Json → Bool
  | .null, .null => true
  | .str a, .str b => a = b
  | .arr as, .arr bs => sameItems as bs
  | .obj as, .obj bs => as.length = bs.length && sameFields as bs
  | .bool a, b => (number? b).any (sameNumber (.int (if a then 1 else 0)))
  | .int a, b => (number? b).any (sameNumber (.int a))
  | .float a, b => (number? b).any (sameNumber (.float a))
  | _, _ => false

def sameItems : List Json → List Json → Bool
  | [], [] => true
  | a :: as, b :: bs => same a b && sameItems as bs
  | _, _ => false

/-- Every field of the first list has the same value in the second. -/
def sameFields : List (String × Json) → Fields → Bool
  | [], _ => true
  | (key, a) :: rest, bs => (Entries.find? key bs).any (same a) && sameFields rest bs

end

end Gleaner.Json
