import Gleaner.Entries

/-!
# JSON values

The dynamic value type of recipes, bindings and model replies. Integers of any size and
floating numbers are kept apart, since both are written back the way they were read. An
object keeps its fields in order of first appearance.
-/

set_option autoImplicit false

namespace Gleaner

inductive Json where
  | null
  | bool (value : Bool)
  | int (value : Int)
  | float (value : Float)
  | str (value : String)
  | arr (items : List Json)
  | obj (fields : List (String × Json))
  deriving Inhabited

abbrev Fields := Entries Json

namespace Json

def isNull : Json → Bool
  | .null => true
  | _ => false

def asString? : Json → Option String
  | .str s => some s
  | _ => none

def asList? : Json → Option (List Json)
  | .arr items => some items
  | _ => none

def asFields? : Json → Option Fields
  | .obj fields => some fields
  | _ => none

def field? (key : String) : Json → Option Json
  | .obj fields => Entries.find? key fields
  | _ => none

/-- Everything but null, false, zero and empty texts, lists and objects. -/
def truthy : Json → Bool
  | .null => false
  | .bool b => b
  | .int n => n != 0
  | .float x => x != 0
  | .str s => s != ""
  | .arr items => !items.isEmpty
  | .obj fields => !fields.isEmpty

def ofStrings (texts : List String) : Json :=
  .arr (texts.map .str)

def ofString? : Option String → Json
  | some s => .str s
  | none => .null

def compact (fields : Fields) : Json :=
  .obj (fields.filter fun entry => !entry.2.isNull)

end Json

end Gleaner
