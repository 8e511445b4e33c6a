/-!
# Binary numbers and their neighbours

A finite floating number is `mantissa * 2 ^ exponent`. This module takes a number apart,
rounds a quotient of naturals to the nearest number (a tie goes to the even mantissa), and
converts between numbers and integers without loss where there is none to make.
-/

set_option autoImplicit false

namespace Gleaner.Decimal

def twoPow (exponent : Nat) : Nat := Nat.pow 2 exponent

def tenPow (exponent : Nat) : Nat := Nat.pow 10 exponent

/-- A finite floating number: sign, and `mantissa * 2 ^ exponent`. -/
structure Binary where
  negative : Bool
  mantissa : Nat
  exponent : Int
  /-- The mantissa is the least of its binade, so the gap below is half the gap above. -/
  narrowBelow : Bool
  deriving Repr

def Binary.ofFloat? (x : Float) : Option Binary :=
  let bits := x.toBits.toNat
  let negative := bits >= twoPow 63
  let biased : Nat := bits / twoPow 52 % twoPow 11
  let fraction : Nat := bits % twoPow 52
  if biased = 2047 then none
  else if biased = 0 then some ⟨negative, fraction, -1074, false⟩
  else some ⟨negative, fraction + twoPow 52, Int.ofNat biased - 1075, fraction = 0 && 1 < biased⟩

/-- `num * 2 ^ shift / den` rounded to the nearest natural, a tie to the even one. -/
def roundScaled (num den : Nat) (shift : Int) : Nat :=
  let top := num * twoPow shift.toNat
  let bottom := den * twoPow (-shift).toNat
  let quotient := top / bottom
  let rest := top % bottom
  if 2 * rest > bottom ∨ (2 * rest = bottom ∧ quotient % 2 = 1) then quotient + 1 else quotient

/-- The bits of infinity; those of finite sizes lie below them. -/
def infinityBits : Nat := 2047 * twoPow 52

section Bits

open Float.Model Float.Model.UnpackedFloat

theorem unpackExponent_toNat (bits : BitVec Format.binary64.numBits) :
    (unpackExponent bits).toNat = bits.toNat / twoPow 52 % twoPow 11 := by
  simp [unpackExponent, Nat.shiftRight_eq_div_pow, twoPow]

theorem unpackMantissa_toNat (bits : BitVec Format.binary64.numBits) :
    (unpackMantissa bits).toNat = bits.toNat % twoPow 52 := by
  simp [unpackMantissa, twoPow]

/-- Sizes up to infinity's, of either sign, are no odd forms of what is not a number. -/
theorem valid_bits (negative : Bool) {size : Nat} (small : size ≤ infinityBits) :
    Format.binary64.Valid (.ofNat 64 (size + negative.toNat * twoPow 63)) := by
  refine ⟨fun exponent mantissa => absurd (BitVec.eq_of_toNat_eq ?_) mantissa⟩
  have whole : (BitVec.ofNat 64 (size + negative.toNat * twoPow 63)).toNat =
      size + negative.toNat * twoPow 63 := by
    cases negative <;> simp [infinityBits, twoPow] at small ⊢ <;> omega
  have exponent := congrArg BitVec.toNat exponent
  rw [unpackExponent_toNat, whole] at exponent
  rw [unpackMantissa_toNat, whole]
  cases negative <;> simp [infinityBits, twoPow] at small exponent ⊢ <;> omega

end Bits

/-- The floating number with a sign and the bits of a size, which is infinity's at most. -/
def ofBits (negative : Bool) (size : Nat) : Float :=
  .ofModel
    { toBits := .ofBitVec (.ofNat 64 (min size infinityBits + negative.toNat * twoPow 63))
      valid := valid_bits negative (Nat.min_le_right size infinityBits) }

/-- The bits of the floating number nearest to `num / den`; beyond the largest one they are
infinity's or more. -/
def nearestBits (num den : Nat) : Nat :=
  if num = 0 || den = 0 then 0
  else
    let width : Int := (num.log2 : Int) - (den.log2 : Int)
    -- `num / den` lies between `2 ^ (width - 1)` and `2 ^ (width + 1)`
    let tight : Int := width - 53
    let unit : Int :=
      if roundScaled num den (-tight) < twoPow 53 then tight else tight + 1
    let unit : Int := max unit (-1074)
    let mantissa := roundScaled num den (-unit)
    -- a mantissa of `2 ^ 52` or more adds its leading bit to the exponent
    (unit + 1074).toNat * twoPow 52 + mantissa

/-- The floating number nearest to a quotient, with a sign; infinity beyond the largest one. -/
def nearest (negative : Bool) (num den : Nat) : Float :=
  ofBits negative (nearestBits num den)

/-- The bits of the floating number nearest to `digits * 10 ^ power`. Powers far outside the
range of finite numbers give infinity or zero at once. -/
def scaledBits (digits : Nat) (power : Int) : Nat :=
  let size : Int := digits.log2 / 3
  if digits = 0 then 0
  else if power > 400 then infinityBits
  else if power + size < -400 then 0
  else nearestBits (digits * tenPow power.toNat) (tenPow (-power).toNat)

/-- The floating number nearest to `digits * 10 ^ power`, with a sign. -/
def scaled (negative : Bool) (digits : Nat) (power : Int) : Float :=
  ofBits negative (scaledBits digits power)

def ofInt (n : Int) : Float :=
  nearest (n < 0) n.natAbs 1

/-- The integer below or at a finite number. -/
def floor? (x : Float) : Option Int :=
  (Binary.ofFloat? x).map fun b =>
    let size : Int := b.mantissa
    let signed := if b.negative then -size else size
    if b.exponent ≥ 0 then signed * (twoPow b.exponent.toNat : Int)
    else Int.fdiv signed (twoPow (-b.exponent).toNat : Int)

def toInt? (x : Float) : Option Int :=
  match floor? x with
  | some n => if ofInt n == x then some n else none
  | none => none

def truncate? (x : Float) : Option Int :=
  (floor? x).map fun n => if x < 0 && !(ofInt n == x) then n + 1 else n

end Gleaner.Decimal
