import Gleaner.Decimal.Shortest
import Gleaner.Proofs.Decimal.Parts

/-!
# Decimals that read back

The decimal chosen for a finite number is one that rounds to it.
-/

set_option autoImplicit false

namespace Gleaner.Decimal

def Digits.value (d : Digits) : ℚ :=
  d.digits * 10 ^ d.exponent

theorem ten_zpow_succ (power : Int) : (10 : ℚ) ^ (power + 1) = 10 ^ power * 10 :=
  zpow_add_one₀ (by norm_num) power

theorem Digits.trim_value (fuel digits : Nat) (exponent : Int) :
    (Digits.trim fuel digits exponent).value = digits * 10 ^ exponent := by
  fun_induction Digits.trim fuel digits exponent with
  | case1 => rfl
  | case2 fuel digits exponent zero ih =>
      have whole : digits = digits / 10 * 10 := by omega
      have cast : (digits : ℚ) = (digits / 10 : Nat) * 10 := by exact_mod_cast whole
      rw [ih, ten_zpow_succ, cast]
      ring
  | case3 => rfl

/-!
## The interval around a number
-/

section Ends

variable {size digits bottom : Nat} {exponent : Int} (pos : 0 < bottom)

include pos

theorem bound_le_iff :
    size * tenPow (-exponent).toNat ≤ digits * tenPow exponent.toNat * bottom ↔
      (size : ℚ) / bottom ≤ digits * 10 ^ exponent := by
  have tenPos : (0 : ℚ) < tenPow (-exponent).toNat := by exact_mod_cast tenPow_pos _
  have bottomPos : (0 : ℚ) < bottom := by exact_mod_cast pos
  rw [← tenPow_div, mul_div_assoc', div_le_div_iff₀ bottomPos tenPos]
  norm_cast

theorem le_bound_iff :
    digits * tenPow exponent.toNat * bottom ≤ size * tenPow (-exponent).toNat ↔
      (digits * 10 ^ exponent : ℚ) ≤ (size : ℚ) / bottom := by
  have tenPos : (0 : ℚ) < tenPow (-exponent).toNat := by exact_mod_cast tenPow_pos _
  have bottomPos : (0 : ℚ) < bottom := by exact_mod_cast pos
  rw [← tenPow_div, mul_div_assoc', div_le_div_iff₀ tenPos bottomPos]
  norm_cast

end Ends

theorem scaled_quarter (size : Nat) (power : Int) :
    ((size * twoPow (power - 2).toNat : Nat) : ℚ) / twoPow (-(power - 2)).toNat =
      size / 4 * 2 ^ power := by
  have quarter : (2 : ℚ) ^ (power - 2) = 2 ^ power / 4 := by
    rw [zpow_sub₀ (by norm_num : (2 : ℚ) ≠ 0)]
    norm_num
  rw [Nat.cast_mul, mul_div_assoc, twoPow_div, quarter]
  ring

theorem Interval.lower_ofBinary {b : Binary} (some : b.mantissa ≠ 0) :
    ((Interval.ofBinary b).lower : ℚ) / (Interval.ofBinary b).bottom =
      (b.mantissa - if b.narrowBelow then 1 / 4 else 1 / 2) * 2 ^ b.exponent := by
  simp only [Interval.ofBinary]
  rw [scaled_quarter]
  congr 1
  split
  · rw [Nat.cast_sub (by omega)]
    push_cast
    ring
  · rw [Nat.cast_sub (by omega)]
    push_cast
    ring

theorem Interval.upper_ofBinary (b : Binary) :
    ((Interval.ofBinary b).upper : ℚ) / (Interval.ofBinary b).bottom =
      (b.mantissa + 1 / 2) * 2 ^ b.exponent := by
  simp only [Interval.ofBinary]
  rw [scaled_quarter]
  push_cast
  ring

theorem Interval.covers_of_holds {b : Binary} (finite : b.Finite) (some : b.mantissa ≠ 0)
    {digits : Nat} {exponent : Int}
    (holds : (Interval.ofBinary b).holds digits exponent = true) :
    b.Covers (digits * 10 ^ exponent) := by
  have pos : 0 < (Interval.ofBinary b).bottom := twoPow_pos _
  have lower := Interval.lower_ofBinary some
  have upper := Interval.upper_ofBinary b
  have closed : (Interval.ofBinary b).closed = decide (b.mantissa % 2 = 0) := rfl
  unfold Interval.holds at holds
  rw [closed] at holds
  split at holds
  next even =>
    simp only [Bool.and_eq_true, decide_eq_true_eq] at holds even
    rw [bound_le_iff pos, le_bound_iff pos, lower, upper] at holds
    refine ⟨holds.1, holds.2, fun odd => ?_⟩
    omega
  next odd =>
    simp only [Bool.and_eq_true, decide_eq_true_eq] at holds odd
    have wide : ¬b.narrowBelow = true := by
      intro narrow
      have lead := (finite.narrow.mp narrow).1
      omega
    rw [← not_le, ← not_le, bound_le_iff pos, le_bound_iff pos, lower, upper, not_le, not_le,
      if_neg wide] at holds
    refine ⟨?_, holds.2.le, fun _ => holds⟩
    rw [if_neg wide]
    exact holds.1.le

theorem Binary.covers_self (b : Binary) : b.Covers (b.mantissa * 2 ^ b.exponent) := by
  have pos := two_zpow_pos b.exponent
  constructor
  · refine mul_le_mul_of_nonneg_right ?_ pos.le
    split <;> linarith
  · exact mul_le_mul_of_nonneg_right (by linarith) pos.le
  · intro odd
    constructor
    · exact mul_lt_mul_of_pos_right (by linarith) pos
    · exact mul_lt_mul_of_pos_right (by linarith) pos

/-!
## The shortest decimal
-/

theorem Interval.holds_of_tried {i : Interval} {exponent : Int} {near far digits : Nat}
    (found : (if i.holds near exponent then some near
      else if i.holds far exponent then some far else none) = some digits) :
    i.holds digits exponent = true := by
  split at found
  next holds =>
    cases found
    exact holds
  next =>
    split at found
    next holds =>
      cases found
      exact holds
    next => cases found

theorem Interval.holds_of_onGrid? {i : Interval} {exponent : Int} {digits : Nat}
    (found : i.onGrid? exponent = some digits) : i.holds digits exponent = true := by
  unfold Interval.onGrid? at found
  exact Interval.holds_of_tried found

theorem exact_value (b : Binary) :
    ((b.mantissa * twoPow b.exponent.toNat * Nat.pow 5 (-b.exponent).toNat : Nat) : ℚ) *
      10 ^ min b.exponent 0 = b.mantissa * 2 ^ b.exponent := by
  simp only [twoPow, Nat.pow_eq]
  push_cast
  rcases le_total 0 b.exponent with up | down
  · have none : (-b.exponent).toNat = 0 := by omega
    rw [none, min_eq_right up, pow_zero, zpow_zero, mul_one, mul_one, ← zpow_natCast,
      Int.toNat_of_nonneg up]
  · have none : b.exponent.toNat = 0 := by omega
    have ten : (10 : ℚ) = 5 * 2 := by norm_num
    rw [none, min_eq_left down, pow_zero, mul_one, ten, mul_zpow, ← zpow_natCast,
      Int.toNat_of_nonneg (by omega), mul_assoc, ← mul_assoc (5 ^ (-b.exponent)),
      ← zpow_add₀ (by norm_num : (5 : ℚ) ≠ 0), neg_add_cancel, zpow_zero, one_mul]

/-- The decimal chosen for a number other than zero rounds to the number. -/
theorem shortestDigits_covers {b : Binary} (finite : b.Finite) (some : b.mantissa ≠ 0) :
    b.Covers (shortestDigits b).value := by
  have searched (fuel count : Nat) :
      b.Covers (shortestDigits.search b (.ofBinary b) (Interval.ofBinary b).magnitude fuel
        count).value := by
    induction fuel generalizing count with
    | zero =>
        rw [shortestDigits.search, Digits.value, exact_value]
        exact b.covers_self
    | succ fuel ih =>
        rw [shortestDigits.search]
        split
        next digits found =>
          rw [Digits.trim_value]
          exact Interval.covers_of_holds finite some (Interval.holds_of_onGrid? found)
        next => exact ih (count + 1)
  unfold shortestDigits
  rw [if_neg some]
  exact searched 18 1

/-- Whatever denotes the decimal chosen for a number reads back as the number. -/
theorem scaled_of_value {x : Float} {b : Binary} {digits : Nat} {power : Int}
    (found : Binary.ofFloat? x = some b)
    (same : (digits : ℚ) * 10 ^ power = (shortestDigits b).value) :
    scaled b.negative digits power = x := by
  obtain ⟨finite, _⟩ := Binary.ofFloat?_spec found
  have bits : scaledBits digits power = b.size := by
    by_cases zero : b.mantissa = 0
    · have tenPos : (10 : ℚ) ^ power ≠ 0 := zpow_ne_zero power (by norm_num)
      have chosen : (shortestDigits b).value = 0 := by
        simp [shortestDigits, zero, Digits.value]
      rw [chosen, mul_eq_zero, or_iff_left tenPos, Nat.cast_eq_zero] at same
      have least : (b.exponent + 1074).toNat = 0 := by
        have leading := finite.leading
        omega
      rw [same, Binary.size, zero, least]
      rfl
    · refine scaledBits_of_covers finite zero ?_
      rw [same]
      exact shortestDigits_covers finite zero
  rw [scaled, bits]
  exact Binary.ofBits_size found

end Gleaner.Decimal
