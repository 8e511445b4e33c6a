import Gleaner.Decimal.Number
import Gleaner.Json.Value

/-!
# Parts of values

A lenient view of values for descriptions whose parts may all be left out: what is absent or
of another kind is empty, zero or false.
-/

set_option autoImplicit false

namespace Gleaner.Json

def part (key : String) (value : Json) : Json :=
  (value.field? key).getD .null

/-- The value of a field, unless it is absent or null. -/
def part? (key : String) (value : Json) : Option Json :=
  (value.field? key).filter fun inner => !inner.isNull

def text (value : Json) : String := value.asString?.getD ""

def text? (value : Json) : Option String := value.asString?.filter (· ≠ "")

def items (value : Json) : List Json := value.asList?.getD []

def fields (value : Json) : Fields := value.asFields?.getD []

def texts (value : Json) : List String := value.items.filterMap asString?

def textFields (value : Json) : Entries String :=
  value.fields.filterMap fun (key, inner) => inner.asString?.map (key, ·)

def integer : Json → Int
  | .int n => n
  | .float x => (Decimal.truncate? x).getD 0
  | .bool b => if b then 1 else 0
  | _ => 0

def natural (value : Json) : Nat := value.integer.toNat

def number : Json → Number
  | .int n => .int n
  | .float x => .float x
  | _ => .int 0

def isTrue : Json → Bool
  | .bool b => b
  | _ => false

def orNull {α : Type} (encode : α → Json) : Option α → Json
  | some value => encode value
  | none => .null

end Gleaner.Json
