import Gleaner.Text.Blank

/-!
# Numeric addresses

Which texts are addresses of four decimal parts or of eight hexadecimal ones, where a run of
zero parts may be left out once and the last two parts may be written as a four-part address.
-/

set_option autoImplicit false

namespace Gleaner.Url

def splitAtChar (mark : Char) : List Char → List (List Char)
  | [] => [[]]
  | c :: rest =>
      match splitAtChar mark rest with
      | [] => [[]]
      | piece :: pieces => if c = mark then [] :: piece :: pieces else (c :: piece) :: pieces

/-- A decimal number up to 255 without a needless zero in front. -/
def isOctet (digits : List Char) : Bool :=
  !digits.isEmpty && digits.length ≤ 3 && digits.all Char.isDigit &&
    (digits.length = 1 || digits.head? != some '0') &&
    digits.foldl (fun n c => n * 10 + (c.toNat - '0'.toNat)) 0 ≤ 255

def isFourPart (cs : List Char) : Bool :=
  let parts := splitAtChar '.' cs
  parts.length = 4 && parts.all isOctet

private def isHexChar (c : Char) : Bool :=
  c.isDigit || ('a' ≤ c.toLower && c.toLower ≤ 'f')

private def isHextet (digits : List Char) : Bool :=
  !digits.isEmpty && digits.length ≤ 4 && digits.all isHexChar

def isEightPartBody (cs : List Char) : Bool :=
  let raw := splitAtChar ':' cs
  let last := raw.getLast?.getD []
  let dotted := last.contains '.'
  -- a four-part address at the end stands for two parts
  let parts := if dotted then raw.dropLast ++ [['0'], ['0']] else raw
  let inner := parts.drop 1 |>.dropLast
  let gaps := inner.countP List.isEmpty
  let headEmpty := (parts.head?.getD []).isEmpty
  let tailEmpty := (parts.getLast?.getD []).isEmpty
  let filled := parts.filter fun part => !part.isEmpty
  3 ≤ raw.length && parts.length ≤ 9 && (!dotted || isFourPart last) && gaps ≤ 1 &&
    filled.all isHextet &&
    (if gaps = 1 then
      -- an empty first or last part belongs to the gap beside it
      (!headEmpty || (parts.drop 1).head?.any List.isEmpty) &&
        (!tailEmpty || (parts.dropLast.getLast?).any List.isEmpty) && filled.length < 8
    else parts.length = 8 && !headEmpty && !tailEmpty)

/-- Eight hexadecimal parts, and a zone after a percent sign. -/
def isEightPart (cs : List Char) : Bool :=
  match splitAtChar '%' cs with
  | [body] => isEightPartBody body
  | [body, zone] => !zone.isEmpty && isEightPartBody body
  | _ => false

end Gleaner.Url
