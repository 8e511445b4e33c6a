import Gleaner.Decimal.Layout
import Gleaner.Json.Value
import Gleaner.Text.Printable

/-!
# Literals

The text of a value as it stands inside messages: texts in quotes with escapes, lists in
brackets, objects as `key: value` pairs in braces. Single quotes are used unless the text
holds one and no double quote.
-/

set_option autoImplicit false

namespace Gleaner.Text

/-- The last `width` hexadecimal digits of a number, in lower case. -/
def hex (width n : Nat) : String :=
  let digits := Nat.toDigits 16 n
  String.ofList (List.replicate (width - digits.length) '0' ++ digits)

private def escapeChar (quote c : Char) : String :=
  if c = '\\' then "\\\\"
  else if c = quote then String.ofList ['\\', quote]
  else if c = '\n' then "\\n"
  else if c = '\r' then "\\r"
  else if c = '\t' then "\\t"
  else if isPrintable c then String.singleton c
  else if c.toNat < 0x100 then "\\x" ++ hex 2 c.toNat
  else if c.toNat < 0x10000 then "\\u" ++ hex 4 c.toNat
  else "\\U" ++ hex 8 c.toNat

def quoted (s : String) : String :=
  let quote := if s.toList.contains '\'' && !s.toList.contains '"' then '"' else '\''
  String.singleton quote ++ String.join (s.toList.map (escapeChar quote)) ++
    String.singleton quote

end Gleaner.Text

namespace Gleaner.Json

mutual

def literal : Json → String
  | .null => "None"
  | .bool true => "True"
  | .bool false => "False"
  | .int n => toString n
  | .float x => Decimal.Layout.literal.text x
  | .str s => Text.quoted s
  | .arr items => "[" ++ literalItems items ++ "]"
  | .obj fields => "\x7b" ++ literalFields fields ++ "\x7d"

def literalItems : List Json → String
  | [] => ""
  | [item] => literal item
  | item :: rest => literal item ++ ", " ++ literalItems rest

def literalFields : List (String × Json) → String
  | [] => ""
  | [(key, value)] => Text.quoted key ++ ": " ++ literal value
  | (key, value) :: rest =>
      Text.quoted key ++ ": " ++ literal value ++ ", " ++ literalFields rest

end

/-- The bare text of a value: a text is itself, anything else its literal. -/
def bareText : Json → String
  | .str s => s
  | value => literal value

def kindName : Json → String
  | .null => "NoneType"
  | .bool _ => "bool"
  | .int _ => "int"
  | .float _ => "float"
  | .str _ => "str"
  | .arr _ => "list"
  | .obj _ => "dict"

end Gleaner.Json
