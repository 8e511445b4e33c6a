import Gleaner.Decimal.Binary
import Gleaner.Text.Blank

/-!
# Numerals in texts

Integers and decimal numbers written as texts: a sign, digits with single low lines between
them, for decimals also a point and a power of ten. Blanks may surround a numeral.
-/

set_option autoImplicit false

namespace Gleaner.Numeral

def isAsciiDigit (c : Char) : Bool := '0' ≤ c && c ≤ '9'

def natural (digits : List Char) : Nat :=
  digits.foldl (fun n c => n * 10 + (c.toNat - '0'.toNat)) 0

/-- The characters without the low lines between digits; nothing when one stands elsewhere. -/
def joinDigits? : List Char → Option (List Char)
  | [] => some []
  | [c] => if c = '_' then none else some [c]
  | a :: '_' :: b :: rest =>
      if isAsciiDigit a && isAsciiDigit b then (joinDigits? (b :: rest)).map (a :: ·) else none
  | c :: rest => if c = '_' then none else (joinDigits? rest).map (c :: ·)

/-- An optional sign: whether it is a minus, and the rest. -/
def splitSign : List Char → Bool × List Char
  | '-' :: rest => (true, rest)
  | '+' :: rest => (false, rest)
  | cs => (false, cs)

private def signed (negative : Bool) (n : Nat) : Int :=
  if negative then -(n : Int) else n

/-- The whole part of a numeral whose fraction has only zeros. -/
def dropZeroFraction (cs : List Char) : List Char :=
  let whole := cs.takeWhile (· ≠ '.')
  if (cs.drop whole.length).drop 1 |>.all (· = '0') then whole else cs

def int? (text : String) : Option Int := do
  let (negative, cs) := splitSign (Text.trimBy Text.isSpace text.toList)
  let digits ← joinDigits? (dropZeroFraction cs)
  guard (!digits.isEmpty && digits.all isAsciiDigit)
  return signed negative (natural digits)

private def lowerAscii (cs : List Char) : List Char :=
  cs.map Char.toLower

/-- Digits, a point among them or not, and a power of ten. -/
def unsignedFloat? (cs : List Char) : Option Float := do
  let whole := cs.takeWhile isAsciiDigit
  let afterWhole := cs.drop whole.length
  let (fraction, afterFraction) :=
    match afterWhole with
    | '.' :: rest => (rest.takeWhile isAsciiDigit, rest.dropWhile isAsciiDigit)
    | rest => ([], rest)
  guard (!whole.isEmpty || !fraction.isEmpty)
  let power : Int ←
    match afterFraction with
    | [] => some 0
    | e :: rest =>
        if e = 'e' || e = 'E' then
          let (negative, digits) := splitSign rest
          if !digits.isEmpty && digits.all isAsciiDigit then some (signed negative (natural digits))
          else none
        else none
  return Decimal.scaled false (natural (whole ++ fraction)) (power - fraction.length)

/-- Reads a floating number, or one of the names of infinity and of no number. -/
def float? (text : String) : Option Float := do
  let (negative, cs) := splitSign (Text.trimBy Text.isBlank text.toList)
  let name := String.ofList (lowerAscii cs)
  let size ←
    if name = "inf" || name = "infinity" then some (1.0 / 0.0)
    else if name = "nan" then some (0.0 / 0.0)
    else (joinDigits? cs).bind unsignedFloat?
  return if negative then -size else size

end Gleaner.Numeral
