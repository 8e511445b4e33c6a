import Gleaner.Json.Reader

/-!
# Objects embedded in prose

Model replies wrap JSON in sentences and code fences. `firstObject?` looks at each opening
brace in turn, takes the text up to the brace that balances it (braces inside quotes do not
count), and answers the first such text that reads as an object.
-/

set_option autoImplicit false

namespace Gleaner.Json

/-- Where a scan for the balancing brace stands. -/
structure Balance where
  depth : Nat
  quoted : Bool
  escaped : Bool

/-- The characters up to and with the brace that closes the first one. -/
def balanced? (state : Balance) : List Char → Option (List Char)
  | [] => none
  | c :: rest =>
      let go (next : Balance) := (balanced? next rest).map (c :: ·)
      if state.quoted then
        if state.escaped then go { state with escaped := false }
        else if c = '\\' then go { state with escaped := true }
        else go { state with quoted := c ≠ '"' }
      else if c = '"' then go { state with quoted := true }
      else if c = '{' then go { state with depth := state.depth + 1 }
      else if c = '}' then
        if state.depth ≤ 1 then some [c] else go { state with depth := state.depth - 1 }
      else go state

def objectAt? (cs : List Char) : Option Fields :=
  match balanced? ⟨0, false, false⟩ cs with
  | some inner =>
      match scanAll inner with
      | .ok (.obj fields) => some fields
      | _ => none
  | none => none

def firstObjectIn? : List Char → Option Fields
  | [] => none
  | c :: rest =>
      if c = '{' then (objectAt? (c :: rest)).or (firstObjectIn? rest)
      else firstObjectIn? rest

def firstObject? (text : String) : Option Fields :=
  firstObjectIn? text.toList

end Gleaner.Json
