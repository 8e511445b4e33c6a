import Mathlib.Algebra.Order.Field.Power
import Mathlib.Data.Rat.Cast.Order
import Mathlib.Tactic
import Gleaner.Decimal.Binary

/-!
# Rounding to the nearest number

The bits of the floating number nearest to a quotient are those of every finite number that the
quotient rounds to.
-/

set_option autoImplicit false

namespace Gleaner.Decimal

theorem pow_toNat_div (base : Nat) (power : Int) (pos : 0 < base) :
    ((Nat.pow base power.toNat : Nat) : ℚ) / (Nat.pow base (-power).toNat : Nat) =
      (base : ℚ) ^ power := by
  simp only [Nat.pow_eq, Nat.cast_pow]
  have nonzero : (base : ℚ) ≠ 0 := by exact_mod_cast pos.ne'
  rcases le_total 0 power with up | down
  · have none : (-power).toNat = 0 := by omega
    rw [none, pow_zero, div_one, ← zpow_natCast, Int.toNat_of_nonneg up]
  · have none : power.toNat = 0 := by omega
    rw [none, pow_zero, one_div, ← zpow_natCast, Int.toNat_of_nonneg (by omega), zpow_neg, inv_inv]

theorem twoPow_div (power : Int) :
    (twoPow power.toNat : ℚ) / twoPow (-power).toNat = 2 ^ power :=
  pow_toNat_div 2 power (by decide)

theorem tenPow_div (power : Int) :
    (tenPow power.toNat : ℚ) / tenPow (-power).toNat = 10 ^ power :=
  pow_toNat_div 10 power (by decide)

theorem twoPow_pos (exponent : Nat) : 0 < twoPow exponent :=
  Nat.pow_pos (by decide)

theorem tenPow_pos (exponent : Nat) : 0 < tenPow exponent :=
  Nat.pow_pos (by decide)

/-!
## Rounding to a natural
-/

/-- A natural is a nearest one to a number, and not the odd one of two. -/
structure Rounds (r : ℚ) (n : Nat) : Prop where
  above : (n : ℚ) - 1 / 2 ≤ r
  below : r ≤ n + 1 / 2
  inside : n % 2 = 1 → (n : ℚ) - 1 / 2 < r ∧ r < n + 1 / 2

theorem Rounds.not_lt {r : ℚ} {first second : Nat} (rounds : Rounds r first)
    (also : Rounds r second) : ¬first < second := by
  intro less
  have step : (first : ℚ) + 1 ≤ second := by exact_mod_cast less
  have low := also.above
  have high := rounds.below
  have next : (second : ℚ) = first + 1 := by linarith
  have succ : second = first + 1 := by exact_mod_cast next
  rcases Nat.mod_two_eq_zero_or_one first with even | odd
  · have inside := (also.inside (by omega)).1
    linarith
  · have inside := (rounds.inside odd).2
    linarith

theorem Rounds.unique {r : ℚ} {first second : Nat} (rounds : Rounds r first)
    (also : Rounds r second) : first = second :=
  Nat.le_antisymm (Nat.le_of_not_lt (also.not_lt rounds)) (Nat.le_of_not_lt (rounds.not_lt also))

theorem rounds_quotient {top bottom : Nat} (pos : 0 < bottom) :
    Rounds ((top : ℚ) / bottom)
      (if 2 * (top % bottom) > bottom ∨ (2 * (top % bottom) = bottom ∧ top / bottom % 2 = 1)
        then top / bottom + 1 else top / bottom) := by
  have bottomPos : (0 : ℚ) < bottom := by exact_mod_cast pos
  have small : ((top % bottom : Nat) : ℚ) < bottom := by exact_mod_cast Nat.mod_lt top pos
  have none : (0 : ℚ) ≤ ((top % bottom : Nat) : ℚ) / bottom := by positivity
  have whole : (top : ℚ) / bottom = (top / bottom : Nat) + ((top % bottom : Nat) : ℚ) / bottom := by
    rw [eq_comm, eq_div_iff bottomPos.ne', add_mul, div_mul_cancel₀ _ bottomPos.ne']
    exact_mod_cast Nat.div_add_mod' top bottom
  have less : ((top % bottom : Nat) : ℚ) / bottom < 1 := (div_lt_one bottomPos).mpr small
  rw [whole]
  split
  next up =>
    have half : (1 : ℚ) / 2 ≤ ((top % bottom : Nat) : ℚ) / bottom := by
      rw [le_div_iff₀ bottomPos]
      have most : (bottom : ℚ) ≤ 2 * (top % bottom : Nat) := by exact_mod_cast (by omega)
      linarith
    constructor
    · push_cast
      linarith
    · push_cast
      linarith
    · intro odd
      have more : 2 * (top % bottom) > bottom := by omega
      have moreHalf : (1 : ℚ) / 2 < ((top % bottom : Nat) : ℚ) / bottom := by
        rw [lt_div_iff₀ bottomPos]
        have most : (bottom : ℚ) < 2 * (top % bottom : Nat) := by exact_mod_cast more
        linarith
      constructor
      · push_cast
        linarith
      · push_cast
        linarith
  next down =>
    have half : ((top % bottom : Nat) : ℚ) / bottom ≤ 1 / 2 := by
      rw [div_le_iff₀ bottomPos]
      have least : 2 * ((top % bottom : Nat) : ℚ) ≤ bottom := by exact_mod_cast (by omega)
      linarith
    constructor
    · linarith
    · linarith
    · intro odd
      have fewer : 2 * (top % bottom) < bottom := by omega
      have lessHalf : ((top % bottom : Nat) : ℚ) / bottom < 1 / 2 := by
        rw [div_lt_iff₀ bottomPos]
        have least : 2 * ((top % bottom : Nat) : ℚ) < bottom := by exact_mod_cast fewer
        linarith
      constructor
      · linarith
      · linarith

theorem roundScaled_rounds (num : Nat) {den : Nat} (shift : Int) (pos : 0 < den) :
    Rounds ((num : ℚ) / den * 2 ^ shift) (roundScaled num den shift) := by
  have rounds : Rounds _ (roundScaled num den shift) :=
    rounds_quotient (Nat.mul_pos pos (twoPow_pos (-shift).toNat))
  rw [Nat.cast_mul, Nat.cast_mul, mul_div_mul_comm, twoPow_div] at rounds
  exact rounds

/-!
## The unit of the last place
-/

theorem two_zpow_pos (power : Int) : (0 : ℚ) < 2 ^ power :=
  zpow_pos (by norm_num) power

theorem two_zpow_le {first second : Int} (le : first ≤ second) :
    (2 : ℚ) ^ first ≤ 2 ^ second :=
  zpow_le_zpow_right₀ (by norm_num) le

theorem two_zpow_succ (power : Int) : (2 : ℚ) ^ (power + 1) = 2 ^ power * 2 :=
  zpow_add_one₀ (by norm_num) power

theorem log2_bounds {n : Nat} (some : n ≠ 0) :
    (2 : ℚ) ^ (n.log2 : Int) ≤ n ∧ (n : ℚ) < 2 ^ ((n.log2 : Int) + 1) := by
  have low : 2 ^ n.log2 ≤ n := Nat.log2_self_le some
  have high : n < 2 ^ (n.log2 + 1) := Nat.lt_log2_self
  constructor
  · rw [zpow_natCast]
    exact_mod_cast low
  · rw [← Nat.cast_succ, zpow_natCast]
    exact_mod_cast high

theorem quotient_bounds {num den : Nat} (someNum : num ≠ 0) (someDen : den ≠ 0) :
    (2 : ℚ) ^ ((num.log2 : Int) - den.log2 - 1) < (num : ℚ) / den ∧
      (num : ℚ) / den < 2 ^ ((num.log2 : Int) - den.log2 + 1) := by
  obtain ⟨numLow, numHigh⟩ := log2_bounds someNum
  obtain ⟨denLow, denHigh⟩ := log2_bounds someDen
  have denPos : (0 : ℚ) < den := by exact_mod_cast Nat.pos_of_ne_zero someDen
  constructor
  · rw [lt_div_iff₀ denPos]
    calc (2 : ℚ) ^ ((num.log2 : Int) - den.log2 - 1) * den
        < 2 ^ ((num.log2 : Int) - den.log2 - 1) * 2 ^ ((den.log2 : Int) + 1) :=
          mul_lt_mul_of_pos_left denHigh (two_zpow_pos _)
      _ = 2 ^ (num.log2 : Int) := by
          rw [← zpow_add₀ (by norm_num : (2 : ℚ) ≠ 0)]
          congr 1
          ring
      _ ≤ num := numLow
  · rw [div_lt_iff₀ denPos]
    calc (num : ℚ) < 2 ^ ((num.log2 : Int) + 1) := numHigh
      _ = 2 ^ ((num.log2 : Int) - den.log2 + 1) * 2 ^ (den.log2 : Int) := by
          rw [← zpow_add₀ (by norm_num : (2 : ℚ) ≠ 0)]
          congr 1
          ring
      _ ≤ 2 ^ ((num.log2 : Int) - den.log2 + 1) * den :=
          mul_le_mul_of_nonneg_left denLow (two_zpow_pos _).le

/-- The unit of the last place if there were no least one. -/
def freeUnit (num den : Nat) : Int :=
  if roundScaled num den (-((num.log2 : Int) - den.log2 - 53)) < twoPow 53
  then (num.log2 : Int) - den.log2 - 53
  else (num.log2 : Int) - den.log2 - 53 + 1

theorem nearestBits_eq {num den : Nat} (someNum : num ≠ 0) (someDen : den ≠ 0) :
    nearestBits num den =
      (max (freeUnit num den) (-1074) + 1074).toNat * twoPow 52 +
        roundScaled num den (-max (freeUnit num den) (-1074)) := by
  have none : ¬((num = 0 || den = 0) = true) := by simp [someNum, someDen]
  unfold nearestBits
  rw [if_neg none]
  rfl

/-- In its own unit a quotient has 53 places, up to rounding. -/
theorem freeUnit_bounds {num den : Nat} (someNum : num ≠ 0) (someDen : den ≠ 0) :
    (2 ^ 52 - 1 / 4) * 2 ^ freeUnit num den ≤ (num : ℚ) / den ∧
      (num : ℚ) / den < 2 ^ 53 * 2 ^ freeUnit num den := by
  obtain ⟨low, high⟩ := quotient_bounds someNum someDen
  have rounds := roundScaled_rounds num
    (-((num.log2 : Int) - den.log2 - 53)) (Nat.pos_of_ne_zero someDen)
  unfold freeUnit
  generalize (num.log2 : Int) - den.log2 = width at *
  generalize (num : ℚ) / den = quotient at *
  have pos := two_zpow_pos (width - 53)
  have scaled : quotient * 2 ^ (-(width - 53)) * 2 ^ (width - 53) = quotient := by
    rw [mul_assoc, ← zpow_add₀ (by norm_num : (2 : ℚ) ≠ 0), neg_add_cancel, zpow_zero, mul_one]
  have lowUnit : (2 : ℚ) ^ (width - 1) = 2 ^ 52 * 2 ^ (width - 53) := by
    rw [← zpow_natCast, ← zpow_add₀ (by norm_num : (2 : ℚ) ≠ 0)]
    congr 1
    push_cast
    ring
  have highUnit : (2 : ℚ) ^ (width + 1) = 2 ^ 54 * 2 ^ (width - 53) := by
    rw [← zpow_natCast, ← zpow_add₀ (by norm_num : (2 : ℚ) ≠ 0)]
    congr 1
    push_cast
    ring
  split
  next fits =>
    have most : (roundScaled num den (-(width - 53)) : ℚ) + 1 ≤ 2 ^ 53 := by exact_mod_cast fits
    have less : quotient ≤ (2 ^ 53 - 1 / 2) * 2 ^ (width - 53) := by
      rw [← scaled]
      refine mul_le_mul_of_nonneg_right ?_ pos.le
      have below := rounds.below
      linarith
    constructor
    · linarith
    · linarith
  next exceeds =>
    have least : (2 : ℚ) ^ 53 ≤ roundScaled num den (-(width - 53)) := by
      exact_mod_cast Nat.le_of_not_lt exceeds
    have more : (2 ^ 53 - 1 / 2) * 2 ^ (width - 53) ≤ quotient := by
      rw [← scaled]
      refine mul_le_mul_of_nonneg_right ?_ pos.le
      have above := rounds.above
      linarith
    rw [two_zpow_succ]
    constructor
    · linarith
    · linarith

/-!
## Finite numbers
-/

/-- The parts of a finite number lie in range, and only the least unit leaves the leading bit
out. -/
structure Binary.Finite (b : Binary) : Prop where
  mantissa_lt : b.mantissa < 2 ^ 53
  least : -1074 ≤ b.exponent
  most : b.exponent ≤ 971
  leading : -1074 < b.exponent → 2 ^ 52 ≤ b.mantissa
  narrow : b.narrowBelow = true ↔ b.mantissa = 2 ^ 52 ∧ -1074 < b.exponent

/-- The bits of a finite number without its sign. -/
def Binary.size (b : Binary) : Nat :=
  (b.exponent + 1074).toNat * twoPow 52 + b.mantissa

/-- A number lies no further from a finite number than halfway to the next ones, and not halfway
from an odd one. -/
structure Binary.Covers (b : Binary) (r : ℚ) : Prop where
  above : (b.mantissa - if b.narrowBelow then 1 / 4 else 1 / 2) * 2 ^ b.exponent ≤ r
  below : r ≤ (b.mantissa + 1 / 2) * 2 ^ b.exponent
  inside : b.mantissa % 2 = 1 →
    (b.mantissa - 1 / 2) * 2 ^ b.exponent < r ∧ r < (b.mantissa + 1 / 2) * 2 ^ b.exponent

section Covers

variable {b : Binary} {r : ℚ} (finite : b.Finite) (covers : b.Covers r) {unit : Int}

include finite covers

/-- A unit above the number's own would need a quotient halfway from an odd mantissa. -/
theorem Binary.Covers.unit_le (more : -1074 < unit → (2 ^ 52 - 1 / 4) * 2 ^ unit ≤ r) :
    unit ≤ b.exponent := by
  by_contra above
  have least := finite.least
  have enough := more (by omega)
  have doubled : (2 : ℚ) ^ b.exponent * 2 ≤ 2 ^ unit := by
    rw [← two_zpow_succ]
    exact two_zpow_le (by omega)
  have pos := two_zpow_pos b.exponent
  have far : (2 ^ 53 - 1 / 2) * 2 ^ b.exponent ≤ r := by linarith
  have small : b.mantissa + 1 ≤ 2 ^ 53 := finite.mantissa_lt
  have smaller : b.mantissa + 1 ≤ 2 ^ 53 - 1 ∨ b.mantissa = 2 ^ 53 - 1 := by omega
  rcases smaller with less | last
  · have cast : (b.mantissa : ℚ) + 1 ≤ 2 ^ 53 - 1 := by
      have known : ((b.mantissa + 1 : Nat) : ℚ) ≤ ((2 ^ 53 - 1 : Nat) : ℚ) := Nat.cast_le.mpr less
      norm_num at known ⊢
      exact known
    have below := covers.below
    nlinarith
  · have inside := (covers.inside (by rw [last]; decide)).2
    rw [last] at inside
    norm_num at inside far
    linarith

/-- A unit below the number's own is the next one, and the number is the least of its binade. -/
theorem Binary.Covers.unit_lt (below : unit < b.exponent) (least : -1074 ≤ unit)
    (less : r < 2 ^ 53 * 2 ^ unit) :
    b.exponent = unit + 1 ∧ b.mantissa = 2 ^ 52 ∧ (2 ^ 53 - 1 / 2) * 2 ^ unit ≤ r := by
  have leading := finite.leading (by omega)
  have doubled : (2 : ℚ) ^ unit * 2 ≤ 2 ^ b.exponent := by
    rw [← two_zpow_succ]
    exact two_zpow_le (by omega)
  have pos := two_zpow_pos unit
  have above := covers.above
  have lead : b.mantissa = 2 ^ 52 := by
    by_contra other
    have more : (2 : ℚ) ^ 52 + 1 ≤ b.mantissa := by
      exact_mod_cast (by omega : 2 ^ 52 + 1 ≤ b.mantissa)
    have wide : ¬b.narrowBelow = true := fun narrow => other (finite.narrow.mp narrow).1
    rw [if_neg wide] at above
    nlinarith
  have narrow := finite.narrow.mpr ⟨lead, by omega⟩
  rw [if_pos narrow, lead] at above
  push_cast at above
  have next : b.exponent = unit + 1 := by
    by_contra other
    have quadrupled : (2 : ℚ) ^ unit * 4 ≤ 2 ^ b.exponent := by
      have two : (2 : ℚ) ^ (unit + 1 + 1) ≤ 2 ^ b.exponent := two_zpow_le (by omega)
      rw [two_zpow_succ, two_zpow_succ] at two
      linarith
    linarith
  refine ⟨next, lead, ?_⟩
  rw [next, two_zpow_succ] at above
  linarith

omit finite in
theorem Binary.Covers.rounds : Rounds (r * 2 ^ (-b.exponent)) b.mantissa := by
  have pos := two_zpow_pos b.exponent
  have wide : (b.mantissa - 1 / 2 : ℚ) ≤ b.mantissa - if b.narrowBelow then 1 / 4 else 1 / 2 := by
    split
    · linarith
    · exact le_rfl
  rw [zpow_neg, ← div_eq_mul_inv]
  constructor
  · rw [le_div_iff₀ pos]
    exact (mul_le_mul_of_nonneg_right wide pos.le).trans covers.above
  · rw [div_le_iff₀ pos]
    exact covers.below
  · intro odd
    rw [lt_div_iff₀ pos, div_lt_iff₀ pos]
    exact covers.inside odd

end Covers

theorem Binary.Covers.pos {b : Binary} {r : ℚ} (covers : b.Covers r) (some : b.mantissa ≠ 0) :
    0 < r := by
  refine lt_of_lt_of_le (mul_pos ?_ (two_zpow_pos b.exponent)) covers.above
  have least : (1 : ℚ) ≤ b.mantissa := by exact_mod_cast Nat.one_le_iff_ne_zero.mpr some
  split <;> linarith

theorem nearestBits_of_covers {b : Binary} {num den : Nat} (finite : b.Finite) (someNum : num ≠ 0)
    (someDen : den ≠ 0) (covers : b.Covers ((num : ℚ) / den)) : nearestBits num den = b.size := by
  obtain ⟨more, less⟩ := freeUnit_bounds someNum someDen
  rw [nearestBits_eq someNum someDen]
  generalize freeUnit num den = free at *
  generalize same : max free (-1074) = unit
  have rounds := roundScaled_rounds num (-unit) (Nat.pos_of_ne_zero someDen)
  have least : -1074 ≤ unit := by omega
  have lessUnit : (num : ℚ) / den < 2 ^ 53 * 2 ^ unit := by
    refine less.trans_le (mul_le_mul_of_nonneg_left (two_zpow_le ?_) (by norm_num))
    omega
  have le : unit ≤ b.exponent := covers.unit_le finite fun inner => by
    have free : free = unit := by omega
    rwa [free] at more
  rcases le.lt_or_eq with below | own
  · obtain ⟨next, lead, far⟩ := covers.unit_lt finite below least lessUnit
    have up : Rounds ((num : ℚ) / den * 2 ^ (-unit)) (2 ^ 53) := by
      have pos := two_zpow_pos unit
      rw [zpow_neg, ← div_eq_mul_inv]
      constructor
      · rw [le_div_iff₀ pos]
        push_cast
        exact far
      · rw [div_le_iff₀ pos]
        push_cast
        linarith
      · intro odd
        cases odd
    rw [rounds.unique up, Binary.size, next, lead]
    have step : (unit + 1 + 1074).toNat = (unit + 1074).toNat + 1 := by omega
    have place : twoPow 52 = 2 ^ 52 := by norm_num [twoPow]
    rw [step, place]
    omega
  · rw [own] at rounds
    rw [own, rounds.unique covers.rounds, Binary.size]

/-!
## Powers out of range
-/

theorem two_zpow_le_ten (power : Nat) : (2 : ℚ) ^ (3 * power : Int) ≤ 10 ^ (power : Int) := by
  rw [zpow_mul, zpow_natCast, zpow_natCast]
  exact pow_le_pow_left₀ (by norm_num) (by norm_num) power

theorem ten_zpow_le {first second : Int} (le : first ≤ second) :
    (10 : ℚ) ^ first ≤ 10 ^ second :=
  zpow_le_zpow_right₀ (by norm_num) le

theorem Binary.Covers.lt_ten {b : Binary} {r : ℚ} (finite : b.Finite) (covers : b.Covers r) :
    r < 10 ^ (400 : Int) := by
  have half : (b.mantissa : ℚ) + 1 / 2 < 2 ^ (53 : Int) := by
    have small : b.mantissa + 1 ≤ 2 ^ 53 := finite.mantissa_lt
    have cast : (b.mantissa : ℚ) + 1 ≤ 2 ^ 53 := by exact_mod_cast small
    norm_num at cast ⊢
    linarith
  calc r ≤ (b.mantissa + 1 / 2) * 2 ^ b.exponent := covers.below
    _ < 2 ^ (53 : Int) * 2 ^ b.exponent := mul_lt_mul_of_pos_right half (two_zpow_pos _)
    _ = 2 ^ (53 + b.exponent) := (zpow_add₀ (by norm_num) _ _).symm
    _ ≤ 2 ^ (3 * (400 : Nat) : Int) := two_zpow_le (by have := finite.most; omega)
    _ ≤ 10 ^ (400 : Int) := two_zpow_le_ten 400

theorem Binary.Covers.ten_lt {b : Binary} {r : ℚ} (finite : b.Finite) (some : b.mantissa ≠ 0)
    (covers : b.Covers r) : 10 ^ (-400 : Int) < r := by
  have half : (2 : ℚ) ^ (-1 : Int) ≤ b.mantissa - if b.narrowBelow then 1 / 4 else 1 / 2 := by
    have least : (1 : ℚ) ≤ b.mantissa := by exact_mod_cast Nat.one_le_iff_ne_zero.mpr some
    norm_num
    split <;> linarith
  have far : (2 : ℚ) ^ (1076 : Int) ≤ 10 ^ (400 : Int) :=
    (two_zpow_le (by norm_num)).trans (two_zpow_le_ten 400)
  calc (10 : ℚ) ^ (-400 : Int) ≤ 2 ^ (-1076 : Int) := by
        rw [zpow_neg, zpow_neg]
        exact inv_anti₀ (two_zpow_pos _) far
    _ < 2 ^ (-1075 : Int) := zpow_lt_zpow_right₀ (by norm_num) (by norm_num)
    _ = 2 ^ (-1 : Int) * 2 ^ (-1074 : Int) :=
        (congrArg _ (by norm_num)).trans (zpow_add₀ (by norm_num : (2 : ℚ) ≠ 0) (-1) (-1074))
    _ ≤ (b.mantissa - if b.narrowBelow then 1 / 4 else 1 / 2) * 2 ^ b.exponent :=
        mul_le_mul half (two_zpow_le finite.least) (two_zpow_pos _).le
          ((two_zpow_pos _).le.trans half)
    _ ≤ r := covers.above

/-- Every decimal that a finite number covers has its bits. -/
theorem scaledBits_of_covers {b : Binary} {digits : Nat} {power : Int} (finite : b.Finite)
    (some : b.mantissa ≠ 0) (covers : b.Covers (digits * 10 ^ power)) :
    scaledBits digits power = b.size := by
  have someDigits : digits ≠ 0 := by
    rintro rfl
    have pos := covers.pos some
    simp at pos
  have least : (1 : ℚ) ≤ digits := by exact_mod_cast Nat.one_le_iff_ne_zero.mpr someDigits
  have tenPos : (0 : ℚ) < 10 ^ power := zpow_pos (by norm_num) power
  have notAbove : ¬power > 400 := by
    intro above
    have large : (10 : ℚ) ^ (400 : Int) ≤ digits * 10 ^ power :=
      (ten_zpow_le above.le).trans (le_mul_of_one_le_left tenPos.le least)
    exact absurd (covers.lt_ten finite) (not_lt.mpr large)
  have notBelow : ¬power + ((digits.log2 : Int) / 3) < -400 := by
    intro below
    have few : (digits : ℚ) ≤ 10 ^ (((digits.log2 / 3 + 1 : Nat)) : Int) :=
      calc (digits : ℚ) ≤ 2 ^ ((digits.log2 : Int) + 1) := (log2_bounds someDigits).2.le
        _ ≤ 2 ^ (3 * (digits.log2 / 3 + 1 : Nat) : Int) := two_zpow_le (by omega)
        _ ≤ 10 ^ (((digits.log2 / 3 + 1 : Nat)) : Int) := two_zpow_le_ten _
    have small : (digits : ℚ) * 10 ^ power ≤ 10 ^ (-400 : Int) :=
      calc (digits : ℚ) * 10 ^ power
          ≤ 10 ^ (((digits.log2 / 3 + 1 : Nat)) : Int) * 10 ^ power :=
            mul_le_mul_of_nonneg_right few tenPos.le
        _ = 10 ^ (((digits.log2 / 3 + 1 : Nat) : Int) + power) :=
            (zpow_add₀ (by norm_num) _ _).symm
        _ ≤ 10 ^ (-400 : Int) := ten_zpow_le (by omega)
    exact absurd (covers.ten_lt finite some) (not_lt.mpr small)
  unfold scaledBits
  dsimp only
  rw [if_neg someDigits, if_neg notAbove, if_neg notBelow]
  refine nearestBits_of_covers finite (Nat.mul_ne_zero someDigits (tenPow_pos _).ne')
    (tenPow_pos _).ne' ?_
  rw [Nat.cast_mul, mul_div_assoc, tenPow_div]
  exact covers

end Gleaner.Decimal
