import Gleaner.Fault

/-!
# Objects given as pairs

A list of pairs of a key and a value can stand for an object. What stands for none is refused
with the first thing that is wrong with it.
-/

set_option autoImplicit false

namespace Gleaner

/-- The fields that a list of pairs stands for: each item has two parts, the first a key. -/
def pairFields (index : Nat) : List Json → Except Fault Fields
  | [] => .ok []
  | item :: rest => do
      let wrongSize (size : Nat) : Fault :=
        .foreign "ValueError"
          s!"dictionary update sequence element #{index} has length {size}; 2 is required"
      let entry ←
        match item with
        | .arr [key, value] => .ok (some (key, value))
        | .arr parts => .error (wrongSize parts.length)
        | .str text =>
            match text.toList with
            | [key, value] => .ok (some (.str (.singleton key), .str (.singleton value)))
            | characters => .error (wrongSize characters.length)
        | .obj [(key, _), (value, _)] => .ok (some (.str key, .str value))
        | .obj fields => .error (wrongSize fields.length)
        | _ =>
            .error (.foreign "TypeError"
              s!"cannot convert dictionary update sequence element #{index} to a sequence")
      let others ← pairFields (index + 1) rest
      match entry with
      | some (.str key, value) => return (key, value) :: others
      | some (.arr _, _) => .error (.foreign "TypeError" "unhashable type: 'list'")
      | some (.obj _, _) => .error (.foreign "TypeError" "unhashable type: 'dict'")
      | _ => return others

def Json.toFields : Json → Except Fault Fields
  | .obj fields => .ok fields
  | .arr items => Entries.ofPairs <$> pairFields 0 items
  | .str text => Entries.ofPairs <$> pairFields 0 (text.toList.map fun c => .str (.singleton c))
  | other => .error (.foreign "TypeError" ("'" ++ other.kindName ++ "' object is not iterable"))

end Gleaner
