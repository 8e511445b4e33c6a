import Gleaner.Decimal.Number
import Gleaner.Proofs.Decimal.Shortest

/-!
# The order of numbers

Finite numbers have exact values, and two numbers are in order exactly if their values are,
whatever their kinds. Integers are compared with floating numbers without loss: the integer below
a floating number is told exactly, and becomes that number again only if there is no fraction.
-/

set_option autoImplicit false

namespace Gleaner.Decimal

open Float.Model UnpackedFloat

/-!
## Exact values
-/

def Binary.magnitude (b : Binary) : ℚ :=
  b.mantissa * 2 ^ b.exponent

def Binary.value (b : Binary) : ℚ :=
  if b.negative then -b.magnitude else b.magnitude

/-- The value of a number, if it is finite. -/
def value? (x : Float) : Option ℚ :=
  (Binary.ofFloat? x).map Binary.value

theorem Binary.abs_value (b : Binary) : |b.value| = b.magnitude := by
  have nonneg : 0 ≤ b.magnitude := mul_nonneg (Nat.cast_nonneg _) (two_zpow_pos _).le
  unfold value
  split
  · rw [abs_neg, abs_of_nonneg nonneg]
  · exact abs_of_nonneg nonneg

theorem Binary.negative_eq {b : Binary} (some : b.value ≠ 0) :
    b.negative = decide (b.value < 0) := by
  have pos : 0 < b.magnitude := b.abs_value ▸ abs_pos.mpr some
  unfold value
  cases b.negative with
  | true => simp [pos]
  | false => simp [pos.le]

/-- A finite number has a value that is an integer over or times a power of two. -/
theorem Binary.value_eq (b : Binary) :
    b.value = ((if b.negative then -(b.mantissa : Int) else b.mantissa : Int) : ℚ) *
      2 ^ b.exponent := by
  unfold value magnitude
  split <;> push_cast <;> ring

/-!
## Comparing floating numbers
-/

theorem Binary.Finite.magnitude_lt {a b : Binary} (finite : a.Finite) (also : b.Finite)
    (less : a.exponent < b.exponent) : a.magnitude < b.magnitude := by
  have pos := two_zpow_pos a.exponent
  have small : (a.mantissa : ℚ) < 2 ^ 53 := by exact_mod_cast finite.mantissa_lt
  have large : (2 : ℚ) ^ 52 ≤ b.mantissa := by
    exact_mod_cast also.leading (finite.least.trans_lt less)
  calc
    a.magnitude < 2 ^ 53 * 2 ^ a.exponent := mul_lt_mul_of_pos_right small pos
    _ = 2 ^ 52 * 2 ^ (a.exponent + 1) := by rw [two_zpow_succ]; ring
    _ ≤ b.mantissa * 2 ^ b.exponent :=
        mul_le_mul large (two_zpow_le less) (two_zpow_pos _).le (by positivity)

theorem Binary.Finite.compare_magnitude {a b : Binary} (finite : a.Finite) (also : b.Finite) :
    (compare a.exponent b.exponent).then (compare a.mantissa b.mantissa) =
      compare a.magnitude b.magnitude := by
  rcases lt_trichotomy a.exponent b.exponent with less | same | more
  · rw [compare_lt_iff_lt.mpr less, compare_lt_iff_lt.mpr (finite.magnitude_lt also less)]
    rfl
  · have scaled : StrictMono fun mantissa : Nat => (mantissa : ℚ) * 2 ^ b.exponent :=
      fun _ _ less => mul_lt_mul_of_pos_right (Nat.cast_lt.mpr less) (two_zpow_pos _)
    rw [compare_eq_iff_eq.mpr same, Binary.magnitude, Binary.magnitude, same,
      ← cmp_eq_compare, ← cmp_eq_compare]
    exact (scaled.cmp_map_eq a.mantissa b.mantissa).symm
  · rw [compare_gt_iff_gt.mpr more, compare_gt_iff_gt.mpr (also.magnitude_lt finite more)]
    rfl

theorem compare_neg_neg (p q : ℚ) : compare (-p) (-q) = (compare p q).swap := by
  have turned : StrictAnti fun value : ℚ => -value := fun _ _ less => neg_lt_neg less
  rw [← cmp_eq_compare, ← cmp_eq_compare, cmp_swap]
  exact turned.cmp_map_eq p q

/-- The form in which a finite number is compared. -/
def Binary.unpacked (b : Binary) : UnpackedFloat :=
  let sign : Sign := if b.negative then .negative else .positive
  if some : 0 < b.mantissa then .finite sign b.mantissa b.exponent some else .zero sign

theorem unpackSign_eq (bits : BitVec Format.binary64.numBits) :
    Sign.ofBitVec (unpackSign bits) =
      if decide (bits.toNat ≥ twoPow 63) then .negative else .positive := by
  have bound : bits.toNat < 2 ^ 64 := bits.isLt
  have place : (unpackSign bits).toNat = bits.toNat / 2 ^ 63 % 2 := by
    delta unpackSign
    simp [Nat.shiftRight_eq_div_pow]
  have plus : unpackSign bits = 0#1 ↔ ¬bits.toNat ≥ twoPow 63 := by
    rw [← BitVec.toNat_inj, place]
    norm_num [twoPow]
    omega
  unfold Sign.ofBitVec
  by_cases minus : bits.toNat ≥ twoPow 63 <;> simp [plus, minus]

/-- A finite number is compared by the parts that it is taken apart into. -/
theorem unpack_finite {x : Float} {b : Binary} (found : Binary.ofFloat? x = some b) :
    x.toModel.unpack = b.unpacked := by
  obtain ⟨bits, whole, same⟩ : ∃ bits : BitVec Format.binary64.numBits,
      x.toBits.toNat = bits.toNat ∧ x.toModel.unpack = UnpackedFloat.unpack .binary64 bits :=
    ⟨x.toModel.toBits.toBitVec, rfl, rfl⟩
  unfold Binary.ofFloat? at found
  dsimp only at found
  rw [whole, ← unpackExponent_toNat, ← unpackMantissa_toNat] at found
  rw [same]
  delta UnpackedFloat.unpack
  dsimp only
  rw [unpackSign_eq]
  have top : unpackExponent bits = -BitVec.ofNat Format.binary64.exponentBits 1 ↔
      (unpackExponent bits).toNat = 2047 := by
    rw [← BitVec.toNat_inj]
    rfl
  have bottom : unpackExponent bits = BitVec.ofNat Format.binary64.exponentBits 0 ↔
      (unpackExponent bits).toNat = 0 := by
    rw [← BitVec.toNat_inj]
    rfl
  have bare : unpackMantissa bits = BitVec.ofNat Format.binary64.mantissaBitsWithoutImplicit 0 ↔
      ¬0 < (unpackMantissa bits).toNat := by
    rw [← BitVec.toNat_inj]
    exact Nat.le_zero.symm.trans not_lt.symm
  split at found
  next => cases found
  next finite =>
    rw [if_neg (mt top.mp finite)]
    split at found
    next least =>
      cases found
      rw [if_pos (bottom.mpr least), Binary.unpacked]
      by_cases none :
          unpackMantissa bits = BitVec.ofNat Format.binary64.mantissaBitsWithoutImplicit 0
      · rw [dif_pos none, dif_neg (bare.mp none)]
      · rw [dif_neg none, dif_pos (not_not.mp (mt bare.mpr none)), least]
        rfl
    next more =>
      cases found
      have lead : (1#1 ++ unpackMantissa bits).toNat = (unpackMantissa bits).toNat + twoPow 52 := by
        rw [BitVec.toNat_append, ← Nat.shiftLeft_add_eq_or_of_lt (unpackMantissa bits).isLt,
          Nat.add_comm]
        rfl
      rw [if_neg (mt bottom.mp more), Binary.unpacked,
        dif_pos (Nat.add_pos_right _ (twoPow_pos 52))]
      congr 1

theorem Binary.unpacked_cases (b : Binary) :
    (∃ sign, b.unpacked = .zero sign ∧ b.value = 0) ∨
      0 < b.magnitude ∧
        ((∃ some, b.unpacked = .finite .negative b.mantissa b.exponent some ∧
          b.value = -b.magnitude) ∨
        ∃ some, b.unpacked = .finite .positive b.mantissa b.exponent some ∧
          b.value = b.magnitude) := by
  unfold unpacked value
  by_cases some : 0 < b.mantissa
  · refine .inr ⟨mul_pos (Nat.cast_pos.mpr some) (two_zpow_pos _), ?_⟩
    cases b.negative with
    | true => exact .inl ⟨some, dif_pos some, rfl⟩
    | false => exact .inr ⟨some, dif_pos some, rfl⟩
  · refine .inl ⟨_, dif_neg some, ?_⟩
    rw [magnitude, Nat.le_zero.mp (not_lt.mp some), Nat.cast_zero, zero_mul, neg_zero, ite_self]

theorem Binary.Finite.compare_unpacked {a b : Binary} (finite : a.Finite) (also : b.Finite) :
    a.unpacked.compare b.unpacked = some (compare a.value b.value) := by
  obtain ⟨sign, first, value⟩ | ⟨pos, ⟨_, first, value⟩ | ⟨_, first, value⟩⟩ := a.unpacked_cases <;>
    obtain ⟨signThen, second, valueThen⟩ |
      ⟨posThen, ⟨_, second, valueThen⟩ | ⟨_, second, valueThen⟩⟩ := b.unpacked_cases <;>
    rw [first, second, value, valueThen]
  -- The first number is zero, negative or positive, and for each of these the second one is.
  · exact congrArg some (compare_eq_iff_eq.mpr rfl).symm
  · exact congrArg some (compare_gt_iff_gt.mpr (by linarith)).symm
  · exact congrArg some (compare_lt_iff_lt.mpr posThen).symm
  · exact congrArg some (compare_lt_iff_lt.mpr (by linarith)).symm
  · exact congrArg some ((congrArg _ (finite.compare_magnitude also)).trans
      (compare_neg_neg _ _).symm)
  · exact congrArg some (compare_lt_iff_lt.mpr (by linarith)).symm
  · exact congrArg some (compare_gt_iff_gt.mpr pos).symm
  · exact congrArg some (compare_gt_iff_gt.mpr (by linarith)).symm
  · exact congrArg some (finite.compare_magnitude also)

theorem compare_value {x y : Float} {p q : ℚ} (first : value? x = some p)
    (second : value? y = some q) :
    x.toModel.unpack.compare y.toModel.unpack = some (compare p q) := by
  obtain ⟨a, foundA, rfl⟩ := Option.map_eq_some_iff.mp first
  obtain ⟨b, foundB, rfl⟩ := Option.map_eq_some_iff.mp second
  rw [unpack_finite foundA, unpack_finite foundB]
  exact (Binary.ofFloat?_spec foundA).1.compare_unpacked (Binary.ofFloat?_spec foundB).1

theorem lt_iff_value {x y : Float} {p q : ℚ} (first : value? x = some p)
    (second : value? y = some q) : x < y ↔ p < q := by
  have lt : x < y ↔ (x.toModel.unpack.compare y.toModel.unpack == some .lt) = true :=
    decide_eq_true_iff
  rw [lt, compare_value first second, ← compare_lt_iff_lt]
  simp

theorem beq_iff_value {x y : Float} {p q : ℚ} (first : value? x = some p)
    (second : value? y = some q) : (x == y) = true ↔ p = q := by
  have beq : (x == y) = (x.toModel.unpack.compare y.toModel.unpack == some .eq) := rfl
  rw [beq, compare_value first second, ← compare_eq_iff_eq]
  simp

/-!
## The integer below a number
-/

theorem floor?_eq {x : Float} {p : ℚ} (value : value? x = some p) : floor? x = some ⌊p⌋ := by
  obtain ⟨b, found, rfl⟩ := Option.map_eq_some_iff.mp value
  rw [floor?, found, b.value_eq, ← twoPow_div]
  refine congrArg some ?_
  dsimp only
  generalize (if b.negative then -(b.mantissa : Int) else b.mantissa) = size
  split
  next up =>
    have none : (-b.exponent).toNat = 0 := by omega
    rw [none, show twoPow 0 = 1 from rfl, Nat.cast_one, div_one]
    exact_mod_cast (Int.floor_intCast _).symm
  next down =>
    have none : b.exponent.toNat = 0 := by omega
    rw [none, Int.fdiv_eq_ediv_of_nonneg _ (Int.natCast_nonneg _),
      ← Rat.floor_intCast_div_natCast]
    simp [twoPow, div_eq_mul_inv]

theorem roundScaled_whole (n : Nat) {unit : Int} (inside : unit < 0) :
    roundScaled n 1 (-unit) = n * twoPow (-unit).toNat := by
  have none : (- -unit).toNat = 0 := by omega
  unfold roundScaled
  dsimp only
  rw [none, show 1 * twoPow 0 = 1 from rfl, Nat.mod_one, Nat.div_one, if_neg (by simp)]

/-- A natural is rounded in a unit of its own, to 53 places or to the least that has more. -/
theorem freeUnit_natural {n : Nat} (some : n ≠ 0) :
    -1074 < freeUnit n 1 ∧ 2 ^ 52 ≤ roundScaled n 1 (-freeUnit n 1) ∧
      roundScaled n 1 (-freeUnit n 1) ≤ 2 ^ 53 := by
  obtain ⟨more, less⟩ := freeUnit_bounds some one_ne_zero
  have rounds := roundScaled_rounds n (-freeUnit n 1) one_pos
  rw [Nat.cast_one, div_one] at more less rounds
  have whole : (1 : ℚ) ≤ n := Nat.one_le_cast.mpr (Nat.one_le_iff_ne_zero.mpr some)
  generalize freeUnit n 1 = unit at *
  have scaled : (n : ℚ) * 2 ^ (-unit) * 2 ^ unit = n := by
    rw [mul_assoc, zpow_neg_mul_zpow_self unit two_ne_zero, mul_one]
  refine ⟨?_, ?_, ?_⟩
  · by_contra low
    have tiny : (2 : ℚ) ^ unit ≤ 2 ^ (-53 : Int) := two_zpow_le (by omega)
    norm_num at tiny
    linarith
  · rw [← scaled] at more
    have low := le_of_mul_le_mul_right more (two_zpow_pos unit)
    have cast : ((2 ^ 52 : Nat) : ℚ) < (roundScaled n 1 (-unit) + 1 : Nat) := by
      have below := rounds.below
      push_cast
      linarith
    exact Nat.lt_succ_iff.mp (Nat.cast_lt.mp cast)
  · rw [← scaled] at less
    have high := lt_of_mul_lt_mul_right less (two_zpow_pos unit).le
    have cast : (roundScaled n 1 (-unit) : ℚ) < (2 ^ 53 + 1 : Nat) := by
      have above := rounds.above
      push_cast
      linarith
    exact Nat.lt_succ_iff.mp (Nat.cast_lt.mp cast)

/-- Bits of a size are those of a mantissa and a unit, the least mantissa that has more than 53
places included. -/
theorem Binary.Finite.magnitude_eq {b : Binary} (finite : b.Finite) {unit : Int} {mantissa : Nat}
    (inside : -1074 < unit) (least : 2 ^ 52 ≤ mantissa) (most : mantissa ≤ 2 ^ 53)
    (bits : (unit + 1074).toNat * twoPow 52 + mantissa = b.size) :
    b.magnitude = mantissa * 2 ^ unit := by
  have fits := finite.mantissa_lt
  have leading := finite.leading
  rw [Binary.size, twoPow_fields.2.1] at bits
  have parts : b.exponent = unit ∧ b.mantissa = mantissa ∨
      b.exponent = unit + 1 ∧ b.mantissa = 2 ^ 52 ∧ mantissa = 2 ^ 53 := by
    omega
  rcases parts with ⟨exponent, own⟩ | ⟨exponent, lead, more⟩
  · rw [Binary.magnitude, exponent, own]
  · rw [Binary.magnitude, exponent, lead, more, two_zpow_succ]
    push_cast
    ring

/-- Rounding a natural leaves no fraction. -/
theorem nearestBits_whole {n : Nat} {b : Binary} (finite : b.Finite)
    (bits : nearestBits n 1 = b.size) : ∃ whole : Nat, b.magnitude = whole := by
  by_cases zero : n = 0
  · rw [zero, Binary.size, twoPow_fields.2.1, show nearestBits 0 1 = 0 from rfl] at bits
    have none : b.mantissa = 0 := by omega
    exact ⟨0, by rw [Binary.magnitude, none, Nat.cast_zero, zero_mul]⟩
  obtain ⟨inside, least, most⟩ := freeUnit_natural zero
  rw [nearestBits_eq zero one_ne_zero, max_eq_left inside.le] at bits
  have same := finite.magnitude_eq inside least most bits
  generalize freeUnit n 1 = unit at *
  rcases lt_or_ge unit 0 with fraction | whole
  · refine ⟨n, ?_⟩
    have scale : (twoPow (-unit).toNat : ℚ) = 2 ^ (-unit) := by
      rw [← twoPow_div, show (- -unit).toNat = 0 by omega, show twoPow 0 = 1 from rfl,
        Nat.cast_one, div_one]
    rw [same, roundScaled_whole n fraction, Nat.cast_mul, scale, mul_assoc,
      zpow_neg_mul_zpow_self unit two_ne_zero, mul_one]
  · refine ⟨roundScaled n 1 (-unit) * 2 ^ unit.toNat, ?_⟩
    rw [same]
    push_cast
    rw [← zpow_natCast, Int.toNat_of_nonneg whole]

theorem Binary.Finite.size_lt {b : Binary} (finite : b.Finite) : b.size < infinityBits := by
  obtain ⟨fits, least, most, -, -⟩ := finite
  rw [size, infinityBits, twoPow_fields.2.1]
  omega

/-- A finite number made of a sign and a size has that size. -/
theorem ofBits_size {negative : Bool} {size : Nat} {b : Binary}
    (found : Binary.ofFloat? (ofBits negative size) = some b) : size = b.size := by
  obtain ⟨finite, -, bits⟩ := Binary.ofFloat?_spec found
  rw [ofBits_toBits_min] at bits
  have inside := finite.size_lt
  rw [infinityBits, twoPow_fields.2.1] at bits inside
  rw [twoPow_fields.2.2] at bits
  cases negative <;> cases b.negative <;> simp at bits <;> omega

theorem whole_ofInt {n : Int} {p : ℚ} (value : value? (ofInt n) = some p) :
    ∃ whole : Int, p = whole := by
  obtain ⟨b, found, rfl⟩ := Option.map_eq_some_iff.mp value
  obtain ⟨whole, same⟩ :=
    nearestBits_whole (Binary.ofFloat?_spec found).1 (ofBits_size found)
  refine ⟨if b.negative then -whole else whole, ?_⟩
  unfold Binary.value
  rw [same]
  split <;> simp

/-- An integer that is the value of a number is the value of the number it becomes. -/
theorem value?_ofInt {x : Float} {n : Int} (value : value? x = some (n : ℚ)) :
    value? (ofInt n) = some (n : ℚ) := by
  by_cases zero : n = 0
  · have parts : Binary.ofFloat? (ofInt 0) = some ⟨false, 0, -1074, false⟩ := rfl
    rw [zero, value?, parts]
    simp [Binary.value, Binary.magnitude]
  obtain ⟨b, found, same⟩ := Option.map_eq_some_iff.mp value
  have finite := (Binary.ofFloat?_spec found).1
  have nonzero : b.value ≠ 0 := by
    rw [same]
    exact Int.cast_ne_zero.mpr zero
  have sign : b.negative = decide (n < 0) := by
    rw [Binary.negative_eq nonzero, same]
    exact decide_eq_decide.mpr Int.cast_lt_zero
  have covers : b.Covers ((n.natAbs : ℚ) / (1 : Nat)) := by
    rw [Nat.cast_one, div_one, Nat.cast_natAbs, Int.cast_abs, ← same, b.abs_value]
    exact b.covers_self
  have own : ofInt n = x := by
    rw [ofInt, nearest, ← sign,
      nearestBits_of_covers finite (Int.natAbs_ne_zero.mpr zero) one_ne_zero covers]
    exact Binary.ofBits_size found
  rw [own, value]

/-- Nothing infinite is the same as a finite number. -/
theorem value?_of_beq {x y : Float} {p : ℚ} (value : value? x = some p) (same : (y == x) = true) :
    ∃ q, value? y = some q := by
  cases found : Binary.ofFloat? y with
  | some b => exact ⟨b.value, by rw [value?, found]; rfl⟩
  | none =>
      obtain ⟨b, foundX, -⟩ := Option.map_eq_some_iff.mp value
      have beq : (y == x) = y.toModel.unpack.beq x.toModel.unpack := rfl
      rw [beq, unpack_finite foundX] at same
      obtain ⟨_, form, -⟩ | ⟨-, ⟨_, form, -⟩ | ⟨_, form, -⟩⟩ := b.unpacked_cases <;>
        obtain rfl | rfl | rfl := not_finite found <;>
        rw [form] at same <;> cases same

/-- A number is the one that the integer below it becomes if it is that integer. -/
theorem floor_beq {x : Float} {p : ℚ} (value : value? x = some p) :
    (ofInt ⌊p⌋ == x) = true ↔ (⌊p⌋ : ℚ) = p := by
  constructor
  · intro same
    obtain ⟨q, rounded⟩ := value?_of_beq value same
    obtain ⟨whole, rfl⟩ := whole_ofInt rounded
    obtain rfl := (beq_iff_value rounded value).mp same
    rw [Int.floor_intCast]
  · intro whole
    rw [← whole] at value
    exact (beq_iff_value (value?_ofInt value) value).mpr rfl

end Gleaner.Decimal

namespace Gleaner.Number

open Decimal

/-- The exact value of a number, if it is finite. -/
def value? : Number → Option ℚ
  | .int n => some n
  | .float x => Decimal.value? x

/-- Numbers are in order as their values are, whatever their kinds. -/
theorem less_iff_value {a b : Number} {p q : ℚ} (first : a.value? = some p)
    (second : b.value? = some q) : less a b = true ↔ p < q := by
  cases a with
  | int m =>
      cases first
      cases b with
      | int n =>
          cases second
          simp [less]
      | float y =>
          have low := Int.floor_le q
          simp only [less, intBelowFloat, floor?_eq second]
          rcases lt_trichotomy m ⌊q⌋ with below | rfl | above
          · have cast : (m : ℚ) < ⌊q⌋ := Int.cast_lt.mpr below
            exact iff_of_true (by simp [below]) (cast.trans_le low)
          · have whole := (floor_beq second).not
            rw [low.lt_iff_ne, Ne, ← whole]
            simp
          · refine iff_of_false (by simp [above.not_gt, above.ne']) ?_
            exact (Int.floor_lt.mp above).not_gt
  | float x =>
      cases b with
      | int n =>
          cases second
          simp [less, floatBelowInt, floor?_eq first, Int.floor_lt]
      | float y => simpa [less] using lt_iff_value first second

theorem value?_of_truncate? {n : Number} (finite : n.truncate?.isSome) :
    ∃ p, n.value? = some p := by
  cases n with
  | int n => exact ⟨n, rfl⟩
  | float x =>
      rw [truncate?, Decimal.truncate?, floor?, Option.isSome_map, Option.isSome_map] at finite
      rwa [value?, ← Option.isSome_iff_exists, Decimal.value?, Option.isSome_map]

theorem least_le {a b : Number} {p q : ℚ} (value : (least a b).value? = some p)
    (limit : b.value? = some q) : p ≤ q := by
  unfold least at value
  split at value
  · cases value.symm.trans limit
    exact le_rfl
  · next least => exact not_lt.mp (mt (less_iff_value limit value).mpr least)

end Gleaner.Number
