import Gleaner.Proofs.Decimal.Rounding

/-!
# The parts of a number

A finite number is put together again from its sign and its size. Besides the finite numbers
there are the two infinities and one value that is not a number.
-/

set_option autoImplicit false

namespace Gleaner.Decimal

theorem float_ext {x y : Float} (same : x.toBits.toNat = y.toBits.toNat) : x = y := by
  obtain ⟨⟨bits, valid⟩⟩ := x
  obtain ⟨⟨bitsThen, validThen⟩⟩ := y
  have equal : bits = bitsThen := UInt64.toNat_inj.mp same
  subst equal
  rfl

theorem ofBits_toBits_min (negative : Bool) (size : Nat) :
    (ofBits negative size).toBits.toNat =
      min size infinityBits + negative.toNat * twoPow 63 := by
  have bits : (ofBits negative size).toBits =
      .ofBitVec (.ofNat 64 (min size infinityBits + negative.toNat * twoPow 63)) := rfl
  have small := Nat.min_le_right size infinityBits
  rw [bits, UInt64.toNat_ofBitVec, BitVec.toNat_ofNat]
  generalize min size infinityBits = least at small
  apply Nat.mod_eq_of_lt
  cases negative <;> simp [infinityBits, twoPow] at small ⊢ <;> omega

theorem ofBits_toBits {negative : Bool} {size : Nat} (small : size ≤ infinityBits) :
    (ofBits negative size).toBits.toNat = size + negative.toNat * twoPow 63 := by
  rw [ofBits_toBits_min, Nat.min_eq_left small]

theorem twoPow_fields :
    twoPow 11 = 2048 ∧ twoPow 52 = 4503599627370496 ∧ twoPow 63 = 9223372036854775808 := by
  norm_num [twoPow]

/-- The parts of a finite number lie in range, and its bits are those of its sign and size. -/
theorem Binary.ofFloat?_spec {x : Float} {b : Binary} (found : Binary.ofFloat? x = some b) :
    b.Finite ∧ b.size ≤ infinityBits ∧
      x.toBits.toNat = b.size + b.negative.toNat * twoPow 63 := by
  have bound := x.toBits.toNat_lt
  obtain ⟨exponents, mantissas, sign⟩ := twoPow_fields
  unfold Binary.ofFloat? at found
  dsimp only at found
  rw [exponents, mantissas, sign, Int.ofNat_eq_natCast] at found
  generalize x.toBits.toNat = bits at *
  have signed : (decide (bits ≥ 9223372036854775808)).toNat = bits / 9223372036854775808 := by
    by_cases minus : bits ≥ 9223372036854775808
    · rw [decide_eq_true minus, Bool.toNat_true]
      omega
    · rw [decide_eq_false minus, Bool.toNat_false]
      omega
  split at found
  next => cases found
  next finite =>
    split at found
    next least =>
      cases found
      refine ⟨⟨?_, le_rfl, by norm_num, ?_, ?_⟩, ?_, ?_⟩
      · dsimp only
        omega
      · intro above
        exact absurd above (lt_irrefl _)
      · simp
      · simp only [Binary.size, infinityBits, mantissas]
        omega
      · simp only [Binary.size, mantissas, sign, signed]
        omega
    next more =>
      cases found
      refine ⟨⟨?_, ?_, ?_, ?_, ?_⟩, ?_, ?_⟩
      · dsimp only
        omega
      · dsimp only
        omega
      · dsimp only
        omega
      · dsimp only
        omega
      · simp only [Bool.and_eq_true, decide_eq_true_eq]
        omega
      · simp only [Binary.size, infinityBits, mantissas]
        omega
      · simp only [Binary.size, mantissas, sign, signed]
        omega

theorem Binary.ofBits_size {x : Float} {b : Binary} (found : Binary.ofFloat? x = some b) :
    ofBits b.negative b.size = x := by
  obtain ⟨_, small, bits⟩ := Binary.ofFloat?_spec found
  apply float_ext
  rw [ofBits_toBits small, bits]

/-- What is no finite number is an infinity or the one value that is not a number. -/
theorem not_finite {x : Float} (none : Binary.ofFloat? x = none) :
    x = 0.0 / 0.0 ∨ x = 1.0 / 0.0 ∨ x = -1.0 / 0.0 := by
  have bound := x.toBits.toNat_lt
  have valid := x.toModel.valid.eq_packedNaN
  obtain ⟨exponents, mantissas, sign⟩ := twoPow_fields
  unfold Binary.ofFloat? at none
  dsimp only at none
  split at none
  next top =>
    have bits : x.toModel.toBits.toBitVec.toNat = x.toBits.toNat := rfl
    by_cases infinite : x.toBits.toNat % twoPow 52 = 0
    · have either : x.toBits.toNat = infinityBits ∨
          x.toBits.toNat = infinityBits + twoPow 63 := by
        rw [infinityBits, mantissas, sign]
        rw [exponents, mantissas] at top
        rw [mantissas] at infinite
        omega
      rcases either with plus | minus
      · exact .inr (.inl (float_ext (plus.trans (by decide +kernel))))
      · exact .inr (.inr (float_ext (minus.trans (by decide +kernel))))
    · have packed := valid (BitVec.eq_of_toNat_eq ?_) fun zero => infinite ?_
      · have same : x.toBits.toNat = (0.0 / 0.0 : Float).toBits.toNat := by
          rw [← bits, packed]
          decide +kernel
        exact .inl (float_ext same)
      · rw [unpackExponent_toNat, bits, top]
        decide
      · rw [← bits, ← unpackMantissa_toNat, zero]
        rfl
  next =>
    split at none
    next => cases none
    next => cases none

end Gleaner.Decimal
