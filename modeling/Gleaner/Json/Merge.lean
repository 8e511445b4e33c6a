import Gleaner.Json.Value

/-!
# Merging objects

Fields of the upper object win. Where both hold an object under a key, the two are merged
in turn; any other pair of values is decided for the upper one as a whole.
-/

set_option autoImplicit false

namespace Gleaner

mutual

def Json.merge (base : Json) : Json → Json
  | .obj updates =>
      match base with
      | .obj fields => .obj (Fields.merge fields updates)
      | _ => .obj updates
  | upper => upper

def Fields.merge (base : List (String × Json)) : List (String × Json) → List (String × Json)
  | [] => base
  | (key, upper) :: rest =>
      let value := match Entries.find? key base with
        | some lower => Json.merge lower upper
        | none => upper
      Fields.merge (Entries.put key value base) rest

end

/-- Writes a value at a path of keys. Objects on the way are made as needed; a value on the way
that is no object stays, and nothing is written. -/
def Fields.putAt (value : Json) : List String → Fields → Fields
  | [], fields => fields
  | [key], fields => Entries.put key value fields
  | key :: rest, fields =>
      match Entries.find? key fields with
      | none => Entries.put key (.obj (putAt value rest [])) fields
      | some (.obj inner) => Entries.put key (.obj (putAt value rest inner)) fields
      | some _ => fields

end Gleaner
