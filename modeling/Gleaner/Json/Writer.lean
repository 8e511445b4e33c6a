import Gleaner.Decimal.Layout
import Gleaner.Json.Value
import Gleaner.Text.Literal

/-!
# Writing JSON

JSON text in ASCII: characters beyond `~` are written as escapes of their UTF-16 units. On
one line, members are separated by a comma and a blank; with an indentation each member has
a line of its own and empty containers stay closed.
-/

set_option autoImplicit false

namespace Gleaner.Json

def unitEscape (n : Nat) : String :=
  "\\u" ++ Text.hex 4 n

def escape (c : Char) : String :=
  if c = '"' then "\\\""
  else if c = '\\' then "\\\\"
  else if c = '\n' then "\\n"
  else if c = '\r' then "\\r"
  else if c = '\t' then "\\t"
  else if c = '\x08' then "\\b"
  else if c = '\x0c' then "\\f"
  else if 32 ≤ c.toNat && c.toNat < 127 then String.singleton c
  else if c.toNat < 0x10000 then unitEscape c.toNat
  else
    let offset := c.toNat - 0x10000
    unitEscape (0xD800 + offset / 0x400) ++ unitEscape (0xDC00 + offset % 0x400)

def writeString (s : String) : String :=
  "\"" ++ String.join (s.toList.map escape) ++ "\""

/-- A value without members; empty text for one that has some. -/
def writeLeaf : Json → String
  | .null => "null"
  | .bool true => "true"
  | .bool false => "false"
  | .int n => toString n
  | .float x => Decimal.Layout.json.text x
  | .str s => writeString s
  | .arr _ => "[]"
  | .obj _ => "\x7b\x7d"

mutual

def write : Json → String
  | .arr (item :: rest) => "[" ++ write item ++ writeItems rest ++ "]"
  | .obj ((key, value) :: rest) =>
      "\x7b" ++ writeString key ++ ": " ++ write value ++ writeFields rest ++ "\x7d"
  | leaf => writeLeaf leaf

def writeItems : List Json → String
  | [] => ""
  | item :: rest => ", " ++ write item ++ writeItems rest

def writeFields : List (String × Json) → String
  | [] => ""
  | (key, value) :: rest =>
      ", " ++ writeString key ++ ": " ++ write value ++ writeFields rest

end

def lineAt (step depth : Nat) : String :=
  "\n" ++ String.ofList (List.replicate (step * depth) ' ')

mutual

/-- A value over several lines; `depth` is the depth of its members. -/
def writeLines (step depth : Nat) : Json → String
  | .arr (item :: rest) =>
      "[" ++ lineAt step depth ++ writeLines step (depth + 1) item ++
        writeItemLines step depth rest ++ lineAt step (depth - 1) ++ "]"
  | .obj ((key, value) :: rest) =>
      "\x7b" ++ lineAt step depth ++ writeString key ++ ": " ++
        writeLines step (depth + 1) value ++ writeFieldLines step depth rest ++
        lineAt step (depth - 1) ++ "\x7d"
  | leaf => writeLeaf leaf

def writeItemLines (step depth : Nat) : List Json → String
  | [] => ""
  | item :: rest =>
      "," ++ lineAt step depth ++ writeLines step (depth + 1) item ++
        writeItemLines step depth rest

def writeFieldLines (step depth : Nat) : List (String × Json) → String
  | [] => ""
  | (key, value) :: rest =>
      "," ++ lineAt step depth ++ writeString key ++ ": " ++
        writeLines step (depth + 1) value ++ writeFieldLines step depth rest

end

/-- A value with each member on its own line, indented by `step` blanks a level. -/
def writeIndented (step : Nat) (value : Json) : String :=
  writeLines step 1 value

def writePlainString (s : String) : String :=
  "\"" ++ String.join (s.toList.map fun c => if c.toNat < 127 then escape c else .singleton c) ++
    "\""

mutual

/-- A value on one line without blanks, characters as they are: the form in which it travels. -/
def writeCompact : Json → String
  | .arr (item :: rest) => "[" ++ writeCompact item ++ writeCompactItems rest ++ "]"
  | .obj ((key, value) :: rest) =>
      "\x7b" ++ writePlainString key ++ ":" ++ writeCompact value ++ writeCompactFields rest ++
        "\x7d"
  | .str s => writePlainString s
  | leaf => writeLeaf leaf

def writeCompactItems : List Json → String
  | [] => ""
  | item :: rest => "," ++ writeCompact item ++ writeCompactItems rest

def writeCompactFields : List (String × Json) → String
  | [] => ""
  | (key, value) :: rest =>
      "," ++ writePlainString key ++ ":" ++ writeCompact value ++ writeCompactFields rest

end

end Gleaner.Json
