import Gleaner.Decimal.Shortest

/-!
# Layouts of decimals

How digits become text. A layout says which magnitudes are written out in full and what the
values without digits are called; `Layout.text` writes a floating number by it, with the
fewest digits that read back.
-/

set_option autoImplicit false

namespace Gleaner.Decimal

structure Layout where
  /-- The decimal point lies above this place … -/
  pointAbove : Int
  /-- … and at or below this one in positional notation. -/
  pointUpTo : Int
  notANumber : String
  infinity : String

def Layout.json : Layout := ⟨-4, 16, "NaN", "Infinity"⟩

def Layout.literal : Layout := ⟨-4, 16, "nan", "inf"⟩

def zeros (count : Nat) : String :=
  String.ofList (List.replicate count '0')

/-- Digits with the point in its place, or with a power of ten of at least two digits. -/
def Layout.place (layout : Layout) (d : Digits) : String :=
  let text := toString d.digits
  let size : Int := text.length
  let point := size + d.exponent
  if d.digits = 0 then "0.0"
  else if layout.pointAbove < point ∧ point ≤ layout.pointUpTo then
    if point ≤ 0 then "0." ++ zeros (-point).toNat ++ text
    else if point ≥ size then text ++ zeros (point - size).toNat ++ ".0"
    else String.ofList (text.toList.take point.toNat) ++ "." ++
      String.ofList (text.toList.drop point.toNat)
  else
    let power := point - 1
    let powerText := toString power.natAbs
    let padded := if powerText.length < 2 then "0" ++ powerText else powerText
    let lead := String.ofList (text.toList.take 1)
    let tail := text.toList.drop 1
    lead ++ (if tail.isEmpty then "" else "." ++ String.ofList tail) ++
      (if power < 0 then "e-" else "e+") ++ padded

def Layout.text (layout : Layout) (x : Float) : String :=
  match Binary.ofFloat? x with
  | some b => (if b.negative then "-" else "") ++ layout.place (shortestDigits b)
  | none =>
      if x > 0 then layout.infinity
      else if x < 0 then "-" ++ layout.infinity
      else layout.notANumber

/-- A finite number with a fixed count of places after the point; of two equally near texts
the one with the even last digit. -/
def fixed (places : Nat) (x : Float) : String :=
  match Binary.ofFloat? x with
  | none => if x > 0 then "inf" else if x < 0 then "-inf" else "nan"
  | some b =>
      let units := roundScaled (b.mantissa * tenPow places) 1 b.exponent
      let whole := toString (units / tenPow places)
      let part := toString (units % tenPow places)
      (if b.negative then "-" else "") ++ whole ++
        (if places = 0 then "" else "." ++ zeros (places - part.length) ++ part)

end Gleaner.Decimal
