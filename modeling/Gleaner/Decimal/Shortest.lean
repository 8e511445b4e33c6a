import Gleaner.Decimal.Binary

/-!
# Shortest decimals

The decimal with the fewest digits that reads back as a given floating number, and of those
the nearest to it. The reals that read back form an interval around the number; its ends
belong to it exactly when the mantissa is even. For one digit, two digits and so on the two
neighbours of the number on that decimal grid are tried until one lies in the interval.
-/

set_option autoImplicit false

namespace Gleaner.Decimal

/-- `digits * 10 ^ exponent`, without trailing zeros in `digits` (zero is `0 * 10 ^ 0`). -/
structure Digits where
  digits : Nat
  exponent : Int
  deriving Repr

def Digits.trim : Nat → Nat → Int → Digits
  | 0, digits, exponent => ⟨digits, exponent⟩
  | fuel + 1, digits, exponent =>
      if digits ≠ 0 ∧ digits % 10 = 0 then Digits.trim fuel (digits / 10) (exponent + 1)
      else ⟨digits, exponent⟩

/-- The reals that read back as a number, as fractions over one denominator. -/
structure Interval where
  lower : Nat
  middle : Nat
  upper : Nat
  bottom : Nat
  closed : Bool

def Interval.ofBinary (b : Binary) : Interval :=
  let shift := (b.exponent - 2)
  let scale := twoPow shift.toNat
  { lower := (4 * b.mantissa - (if b.narrowBelow then 1 else 2)) * scale
    middle := 4 * b.mantissa * scale
    upper := (4 * b.mantissa + 2) * scale
    bottom := twoPow (-shift).toNat
    closed := b.mantissa % 2 = 0 }

/-- Whether `digits * 10 ^ exponent` lies in the interval. -/
def Interval.holds (i : Interval) (digits : Nat) (exponent : Int) : Bool :=
  let top := digits * tenPow exponent.toNat * i.bottom
  let scale := tenPow (-exponent).toNat
  if i.closed then i.lower * scale ≤ top && top ≤ i.upper * scale
  else i.lower * scale < top && top < i.upper * scale

/-- The least `p` with `middle / bottom < 10 ^ p`, searched upward from an estimate. -/
def Interval.magnitude (i : Interval) : Int :=
  let binary : Int := (i.middle.log2 : Int) - (i.bottom.log2 : Int)
  let estimate := Int.fdiv (binary * 30103) 100000 - 2
  let rec search : Nat → Int → Int
    | 0, p => p
    | fuel + 1, p =>
        if i.middle * tenPow (-p).toNat < i.bottom * tenPow p.toNat then p else search fuel (p + 1)
  search 8 estimate

/-- The neighbours on the grid of spacing `10 ^ exponent`, the nearer one first. -/
def Interval.onGrid? (i : Interval) (exponent : Int) : Option Nat :=
  let top := i.middle * tenPow (-exponent).toNat
  let bottom := i.bottom * tenPow exponent.toNat
  let below := top / bottom
  let rest := top % bottom
  let near :=
    if 2 * rest > bottom ∨ (2 * rest = bottom ∧ below % 2 = 1) then below + 1 else below
  let far := if near = below then below + 1 else below
  if i.holds near exponent then some near
  else if i.holds far exponent then some far
  else none

/-- The fewest digits that read back as a positive finite number. -/
def shortestDigits (b : Binary) : Digits :=
  if b.mantissa = 0 then ⟨0, 0⟩
  else
    let i := Interval.ofBinary b
    let magnitude := i.magnitude
    let rec search : Nat → Nat → Digits
      -- every digit of the number itself
      | 0, _ => ⟨b.mantissa * twoPow b.exponent.toNat * Nat.pow 5 (-b.exponent).toNat,
          min b.exponent 0⟩
      | fuel + 1, count =>
          let exponent := magnitude - count
          match i.onGrid? exponent with
          | some digits => Digits.trim 20 digits exponent
          | none => search fuel (count + 1)
    search 18 1

end Gleaner.Decimal
