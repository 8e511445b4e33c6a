import Gleaner.Json.Value
import Gleaner.Schema.Numeral

/-!
# YAML values

The values of a configuration text, and what a plain scalar stands for: nothing, a truth
value, a number, a date, or the text itself.
-/

set_option autoImplicit false

namespace Gleaner

inductive Yaml where
  | null
  | bool (value : Bool)
  | int (value : Int)
  | float (value : Float)
  | str (text : String)
  | date (text : String)
  | seq (items : List Yaml)
  | map (entries : List (Yaml × Yaml))

namespace Yaml

mutual

/-- The value as JSON. Only texts are names there, so other keys are left out; a date, which no
setting takes, becomes an empty list. -/
def toJson : Yaml → Json
  | .null => .null
  | .bool b => .bool b
  | .int n => .int n
  | .float x => .float x
  | .str text => .str text
  | .date _ => .arr []
  | .seq items => .arr (itemsToJson items)
  | .map entries => .obj (Entries.ofPairs (entriesToJson entries))

def itemsToJson : List Yaml → List Json
  | [] => []
  | item :: rest => toJson item :: itemsToJson rest

def entriesToJson : List (Yaml × Yaml) → List (String × Json)
  | [] => []
  | (.str key, value) :: rest => (key, toJson value) :: entriesToJson rest
  | _ :: rest => entriesToJson rest

end

def isText : Yaml → Bool
  | .str _ => true
  | _ => false

def isPlain : Yaml → Bool
  | .seq _ | .map _ => false
  | _ => true

/-! ## Plain scalars -/

private def isDecimal (c : Char) : Bool := '0' ≤ c && c ≤ '9'

private def digitsIn (base : Nat) (cs : List Char) : Option Nat :=
  let digit (c : Char) : Option Nat :=
    let n := if isDecimal c then c.toNat - '0'.toNat
      else if 'a' ≤ c && c ≤ 'f' then c.toNat - 'a'.toNat + 10
      else if 'A' ≤ c && c ≤ 'F' then c.toNat - 'A'.toNat + 10
      else base
    if n < base then some n else none
  let digits := cs.filter (· ≠ '_')
  if digits.isEmpty then none
  else digits.foldlM (fun n c => (digit c).map (n * base + ·)) 0

/-- Groups of a number in base sixty, the first of them without a leading zero. -/
private def sexagesimal? (cs : List Char) : Option (List String) :=
  match (String.ofList cs).splitOn ":" with
  | first :: second :: more =>
      let later := second :: more
      let small (text : String) : Bool :=
        match text.toList with
        | [a] => isDecimal a
        | [a, b] => '0' ≤ a && a ≤ '5' && isDecimal b
        | _ => false
      if later.all small then some (first :: later) else none
  | _ => none

private def sixty (groups : List String) : Option Nat :=
  groups.foldlM (fun n group => (digitsIn 10 group.toList).map (n * 60 + ·)) 0

private def natural? (cs : List Char) : Option Nat :=
  match cs with
  | ['0'] => some 0
  | '0' :: 'b' :: digits => digitsIn 2 digits
  | '0' :: 'x' :: digits => digitsIn 16 digits
  | '0' :: digits => digitsIn 8 digits
  | c :: _ =>
      if '1' ≤ c && c ≤ '9' then
        match sexagesimal? cs with
        | some groups => sixty groups
        | none => digitsIn 10 cs
      else none
  | [] => none

private def signed (cs : List Char) : Bool × List Char :=
  match cs with
  | '-' :: rest => (true, rest)
  | '+' :: rest => (false, rest)
  | _ => (false, cs)

def int? (cs : List Char) : Option Int :=
  let (negative, digits) := signed cs
  (natural? digits).map fun n => if negative then -(n : Int) else n

/-- Digits, a point, digits, and a power with a sign; underscores count for nothing. -/
private def decimal? (cs : List Char) : Option Float :=
  let isPart (c : Char) := isDecimal c || c = '_'
  let (whole, rest) := cs.span isPart
  match rest with
  | '.' :: rest =>
      let (fraction, power) := rest.span isPart
      let starts (part : List Char) := part.head?.any isDecimal
      let formed := starts whole || (whole.isEmpty && starts fraction)
      let powerFormed := match power with
        | [] => true
        | e :: sign :: digits =>
            (e = 'e' || e = 'E') && (sign = '+' || sign = '-') && !digits.isEmpty &&
              digits.all isDecimal
        | _ => false
      if formed && powerFormed then
        Numeral.float? (String.ofList ('0' :: (cs.filter (· ≠ '_'))))
      else none
  | _ => none

def float? (cs : List Char) : Option Float :=
  let (negative, size) := signed cs
  let size? : Option Float :=
    match String.ofList size with
    | ".inf" | ".Inf" | ".INF" => some (1.0 / 0.0)
    | ".nan" | ".NaN" | ".NAN" => if size.length = cs.length then some (0.0 / 0.0) else none
    | _ =>
        if size.head? = some '.' && size.length ≠ cs.length then none
        else decimal? size
  size?.map fun x => if negative then -x else x

private def bool? (text : String) : Option Bool :=
  if ["yes", "Yes", "YES", "true", "True", "TRUE", "on", "On", "ON"].contains text then some true
  else if ["no", "No", "NO", "false", "False", "FALSE", "off", "Off", "OFF"].contains text then
    some false
  else none

/-- Whether a text is a day such as `2001-12-14`, alone or with a time. -/
private def isDate (cs : List Char) : Bool :=
  let (year, rest) := cs.span isDecimal
  match rest with
  | '-' :: rest =>
      let (month, rest) := rest.span isDecimal
      match rest with
      | '-' :: rest =>
          let (day, rest) := rest.span isDecimal
          let short := month.length ≤ 2 && !month.isEmpty && day.length ≤ 2 && !day.isEmpty
          year.length = 4 &&
            if rest.isEmpty then month.length = 2 && day.length = 2
            else
              match rest with
              | c :: rest =>
                  (c = 'T' || c = 't' || c = ' ') && short && rest.contains ':' &&
                    rest.all fun c => isDecimal c || ":. Z+-".contains c
              | [] => false
      | _ => false
  | _ => false

def ofPlain (text : String) : Yaml :=
  let cs := text.toList
  if ["", "~", "null", "Null", "NULL"].contains text then .null
  else
    match bool? text, int? cs, float? cs with
    | some b, _, _ => .bool b
    | none, some n, _ => .int n
    | none, none, some x => .float x
    | none, none, none => if isDate cs then .date text else .str text

end Yaml

end Gleaner
