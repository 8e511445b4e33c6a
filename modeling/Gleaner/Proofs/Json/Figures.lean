import Gleaner.Decimal.Layout
import Gleaner.Proofs.Decimal.Shortest
import Gleaner.Proofs.Json.Words

/-!
# Written numbers

An integer reads back from its digits, and a floating number from the decimal that was laid out
for it, wherever the layout puts the point.
-/

set_option autoImplicit false

namespace Gleaner.Json

/-!
## Digits
-/

theorem naturalOf_eq (digits : List Char) : naturalOf digits = Nat.ofDigitChars 10 digits 0 := by
  rw [naturalOf, Nat.ofDigitChars_eq_foldl]
  congr 1
  funext n c
  rw [Nat.mul_comm]

theorem naturalOf_digits (n : Nat) : naturalOf (Nat.toDigits 10 n) = n := by
  rw [naturalOf_eq, Nat.ofDigitChars_ten_toDigits]

theorem naturalOf_zeros_append (count : Nat) (digits : List Char) :
    naturalOf (List.replicate count '0' ++ digits) = naturalOf digits := by
  rw [naturalOf_eq, naturalOf_eq, Nat.ofDigitChars_append, Nat.ofDigitChars_replicate_zero,
    Nat.mul_zero]

theorem naturalOf_append_zeros (digits : List Char) (count : Nat) :
    naturalOf (digits ++ List.replicate count '0') = 10 ^ count * naturalOf digits := by
  rw [naturalOf_eq, naturalOf_eq, Nat.ofDigitChars_append, Nat.ofDigitChars_replicate_zero]

theorem isAsciiDigit_of_mem_toDigits {n : Nat} :
    ∀ c ∈ Nat.toDigits 10 n, isAsciiDigit c = true := by
  intro c found
  have digit := Nat.isDigit_of_mem_toDigits (by decide) (by decide) found
  rw [isAsciiDigit, Bool.and_eq_true, decide_eq_true_eq, decide_eq_true_eq]
  rw [Char.isDigit, Bool.and_eq_true, decide_eq_true_eq, decide_eq_true_eq] at digit
  exact digit

theorem head?_toDigits {n : Nat} (some : n ≠ 0) : (Nat.toDigits 10 n).head? ≠ Option.some '0' := by
  induction n using Nat.strong_induction_on with
  | _ n ih =>
      rw [Nat.toDigits_eq_if (by decide)]
      split
      next => simpa using some
      next large =>
        rw [List.head?_append_of_ne_nil _ Nat.toDigits_ne_nil]
        exact ih (n / 10) (by omega) (by omega)

theorem lead_toDigits (n : Nat) :
    Nat.toDigits 10 n = ['0'] ∨ (Nat.toDigits 10 n).head? ≠ Option.some '0' := by
  by_cases zero : n = 0
  · rw [zero]
    exact .inl rfl
  · exact .inr (head?_toDigits zero)

theorem toList_toString (n : Nat) : (toString n).toList = Nat.toDigits 10 n := by
  rw [Nat.toString_eq_repr, Nat.toList_repr]

/-!
## Integers
-/

theorem unsigned_digits (negative : Bool) (n : Nat) :
    Unsigned negative (Nat.toDigits 10 n) (.int (if negative then -(n : Int) else n)) := by
  have number := Unsigned.ofParts negative isAsciiDigit_of_mem_toDigits Nat.toDigits_ne_nil
    (lead_toDigits n) .none .none
  rw [List.append_nil, List.append_nil, numberOf, naturalOf_digits] at number
  exact number

theorem word_int (n : Int) : Word (toString n).toList (.int n) := by
  rw [Int.toString_eq_repr]
  cases n with
  | ofNat n =>
      have number := (unsigned_digits false n).word
      rw [Int.repr, Nat.toList_repr]
      exact number
  | negSucc n =>
      have number := (unsigned_digits true (n + 1)).minus
      rw [Int.repr, Nat.succ_eq_add_one, String.toList_append, Nat.toList_repr]
      exact number

/-!
## Floating numbers
-/

theorem numberOf_float {negative : Bool} {whole fraction : List Char} {power : Option Int}
    (floating : fraction ≠ [] ∨ power.isSome) :
    numberOf negative whole fraction power =
      .float (Decimal.scaled negative (naturalOf (whole ++ fraction))
        (power.getD 0 - fraction.length)) := by
  unfold numberOf
  rw [if_neg]
  rw [Bool.and_eq_true, List.isEmpty_iff, Option.isNone_iff_eq_none]
  rintro ⟨nothing, none⟩
  rcases floating with some | some
  · exact some nothing
  · rw [none] at some
    cases some

/-- A piece spells, apart from its sign, a floating number that the reader scales from the same
value. -/
def SpellsValue (piece : List Char) (value : ℚ) : Prop :=
  ∀ negative, ∃ (digits : Nat) (power : Int), (digits : ℚ) * 10 ^ power = value ∧
    Unsigned negative piece (.float (Decimal.scaled negative digits power))

section Positional

variable {whole fraction : List Char} {value : ℚ}
  (allWhole : ∀ c ∈ whole, isAsciiDigit c = true) (someWhole : whole ≠ [])
  (lead : whole = ['0'] ∨ whole.head? ≠ some '0')
  (allFraction : ∀ c ∈ fraction, isAsciiDigit c = true)

include allWhole someWhole lead allFraction

theorem spellsValue_point (someFraction : fraction ≠ [])
    (same : (naturalOf (whole ++ fraction) : ℚ) * 10 ^ (-(fraction.length : Int)) = value) :
    SpellsValue (whole ++ '.' :: fraction) value := by
  intro negative
  have number := Unsigned.ofParts negative allWhole someWhole lead
    (.some allFraction someFraction) .none
  rw [List.append_nil, numberOf_float (.inl someFraction)] at number
  refine ⟨_, _, ?_, number⟩
  rw [Option.getD_none, zero_sub]
  exact same

theorem spellsValue_power {power : Int} {sign powerDigits : List Char}
    (signs : PowerSign sign (decide (power < 0)))
    (allPower : ∀ c ∈ powerDigits, isAsciiDigit c = true) (somePower : powerDigits ≠ [])
    (size : naturalOf powerDigits = power.natAbs)
    (same : (naturalOf (whole ++ fraction) : ℚ) * 10 ^ (power - fraction.length) = value) :
    SpellsValue (whole ++ ((if fraction.isEmpty then [] else '.' :: fraction) ++
      'e' :: sign ++ powerDigits)) value := by
  intro negative
  have fractions : FractionPart (if fraction.isEmpty then [] else '.' :: fraction) fraction := by
    cases fraction with
    | nil => exact .none
    | cons c rest => exact .some allFraction (List.cons_ne_nil c rest)
  have number := Unsigned.ofParts negative allWhole someWhole lead fractions
    (.some (.inl rfl) signs allPower somePower)
  rw [numberOf_float (.inr rfl)] at number
  have signed : (if decide (power < 0) = true then -(naturalOf powerDigits : Int)
      else naturalOf powerDigits) = power := by
    rw [size]
    split
    next below =>
      have negative := of_decide_eq_true below
      omega
    next above =>
      have positive := not_lt.mp fun below => above (decide_eq_true below)
      omega
  rw [Option.getD_some, signed] at number
  exact ⟨_, _, same, by simpa using number⟩

end Positional

theorem toList_zeros (count : Nat) : (Decimal.zeros count).toList = List.replicate count '0' :=
  String.toList_ofList

theorem isAsciiDigit_of_mem_zeros {count : Nat} :
    ∀ c ∈ List.replicate count '0', isAsciiDigit c = true := by
  intro c found
  rw [List.eq_of_mem_replicate found]
  rfl

section Places

variable {digits : List Char} (all : ∀ c ∈ digits, isAsciiDigit c = true) (ne_nil : digits ≠ [])
  (lead : digits.head? ≠ some '0')

include all ne_nil

theorem spellsValue_below (count : Nat) :
    SpellsValue ('0' :: '.' :: (List.replicate count '0' ++ digits))
      (naturalOf digits * 10 ^ (-((count + digits.length : Nat) : Int))) := by
  refine spellsValue_point isAsciiDigit_zero (by decide) (.inl rfl) ?_ (by simp [ne_nil]) ?_
  · intro c found
    rcases List.mem_append.mp found with zero | digit
    · exact isAsciiDigit_of_mem_zeros c zero
    · exact all c digit
  · have zero : ['0'] = List.replicate 1 '0' := rfl
    rw [zero, naturalOf_zeros_append, naturalOf_zeros_append, List.length_append,
      List.length_replicate]

include lead

theorem spellsValue_whole (count : Nat) :
    SpellsValue (digits ++ List.replicate count '0' ++ ['.', '0'])
      (naturalOf digits * 10 ^ (count : Int)) := by
  refine spellsValue_point ?_ (by simp [ne_nil]) (.inr ?_) isAsciiDigit_zero (by decide) ?_
  · intro c found
    rcases List.mem_append.mp found with digit | zero
    · exact all c digit
    · exact isAsciiDigit_of_mem_zeros c zero
  · rwa [List.head?_append_of_ne_nil _ ne_nil]
  · have zero : ['0'] = List.replicate 1 '0' := rfl
    rw [zero, naturalOf_append_zeros, naturalOf_append_zeros, List.length_replicate]
    push_cast
    rw [zpow_neg, zpow_natCast]
    field_simp

theorem spellsValue_within {point : Nat} (pos : 0 < point) (less : point < digits.length) :
    SpellsValue (digits.take point ++ '.' :: digits.drop point)
      (naturalOf digits * 10 ^ ((point : Int) - digits.length)) := by
  have some : digits.take point ≠ [] := by
    rw [Ne, List.take_eq_nil_iff]
    simp [ne_nil, pos.ne']
  refine spellsValue_point (fun c found => all c (List.mem_of_mem_take found)) some (.inr ?_)
    (fun c found => all c (List.mem_of_mem_drop found)) ?_ ?_
  · rwa [← List.take_append_drop point digits, List.head?_append_of_ne_nil _ some] at lead
  · rw [Ne, List.drop_eq_nil_iff]
    omega
  · rw [List.take_append_drop, List.length_drop]
    congr 2
    omega

theorem spellsValue_scientific {power : Int} {sign powerDigits : List Char}
    (signs : PowerSign sign (decide (power < 0)))
    (allPower : ∀ c ∈ powerDigits, isAsciiDigit c = true) (somePower : powerDigits ≠ [])
    (size : naturalOf powerDigits = power.natAbs) :
    SpellsValue (digits.take 1 ++
        ((if (digits.drop 1).isEmpty then [] else '.' :: digits.drop 1) ++
          'e' :: sign ++ powerDigits))
      (naturalOf digits * 10 ^ (power + 1 - digits.length)) := by
  have some : digits.take 1 ≠ [] := by
    rw [Ne, List.take_eq_nil_iff]
    simp [ne_nil]
  have longer : 0 < digits.length := List.length_pos_iff.mpr ne_nil
  refine spellsValue_power (fun c found => all c (List.mem_of_mem_take found)) some (.inr ?_)
    (fun c found => all c (List.mem_of_mem_drop found)) signs allPower somePower size ?_
  · rwa [← List.take_append_drop 1 digits, List.head?_append_of_ne_nil _ some] at lead
  · rw [List.take_append_drop, List.length_drop]
    congr 2
    omega

end Places

theorem padded_digits (n : Nat) :
    ∃ digits, (if (toString n).length < 2 then "0" ++ toString n else toString n).toList = digits ∧
      (∀ c ∈ digits, isAsciiDigit c = true) ∧ digits ≠ [] ∧ naturalOf digits = n := by
  have all := isAsciiDigit_of_mem_toDigits (n := n)
  refine ⟨_, rfl, ?_⟩
  split
  next =>
    rw [String.toList_append, toList_toString]
    refine ⟨?_, by simp, ?_⟩
    · exact List.forall_mem_cons.mpr ⟨rfl, all⟩
    · exact (naturalOf_zeros_append 1 _).trans (naturalOf_digits n)
  next =>
    rw [toList_toString]
    exact ⟨all, Nat.toDigits_ne_nil, naturalOf_digits n⟩

theorem written_sign (power : Int) :
    ∃ sign, (if power < 0 then "e-" else "e+").toList = 'e' :: sign ∧
      PowerSign sign (decide (power < 0)) := by
  by_cases below : power < 0
  · rw [if_pos below, decide_eq_true below]
    exact ⟨_, rfl, .minus⟩
  · rw [if_neg below, decide_eq_false below]
    exact ⟨_, rfl, .plus⟩

theorem toList_point (fraction : List Char) :
    (if fraction.isEmpty then "" else "." ++ String.ofList fraction).toList =
      if fraction.isEmpty then [] else '.' :: fraction := by
  split
  · rfl
  · simp

/-- Wherever a layout puts the point, the text spells the value of the decimal. -/
theorem spellsValue_place (layout : Decimal.Layout) (d : Decimal.Digits) :
    SpellsValue (layout.place d).toList d.value := by
  have all := isAsciiDigit_of_mem_toDigits (n := d.digits)
  have ne_nil : Nat.toDigits 10 d.digits ≠ [] := Nat.toDigits_ne_nil
  have number := naturalOf_digits d.digits
  have size : (toString d.digits).length = (Nat.toDigits 10 d.digits).length := by
    rw [← String.length_toList, toList_toString]
  unfold Decimal.Layout.place
  dsimp only
  rw [size, toList_toString]
  by_cases zero : d.digits = 0
  · have value : d.value = 0 := by simp [Decimal.Digits.value, zero]
    rw [if_pos zero, value]
    exact spellsValue_point isAsciiDigit_zero (by decide) (.inl rfl) isAsciiDigit_zero (by decide)
      (by simp [naturalOf])
  rw [if_neg zero]
  have lead := head?_toDigits zero
  have written := toList_toString d.digits
  generalize toString d.digits = text at *
  generalize Nat.toDigits 10 d.digits = digits at *
  rw [Decimal.Digits.value, ← number]
  split
  next inside =>
    split
    next below =>
      have spelled := spellsValue_below all ne_nil (-(digits.length + d.exponent)).toNat
      have power : -(((-(digits.length + d.exponent)).toNat + digits.length : Nat) : Int) =
          d.exponent := by omega
      rw [power] at spelled
      simpa [toList_zeros, written] using spelled
    next above =>
      split
      next whole =>
        have spelled := spellsValue_whole all ne_nil lead d.exponent.toNat
        have power : (d.exponent.toNat : Int) = d.exponent := by omega
        rw [power] at spelled
        simpa [toList_zeros, written] using spelled
      next within =>
        have pos : 0 < (digits.length + d.exponent).toNat := by omega
        have spelled := spellsValue_within all ne_nil lead pos (by omega)
        have power : ((digits.length + d.exponent).toNat : Int) - digits.length =
            d.exponent := by omega
        rw [power] at spelled
        simpa using spelled
  next outside =>
    obtain ⟨powerDigits, padded, allPower, somePower, powerSize⟩ :=
      padded_digits (digits.length + d.exponent - 1).natAbs
    have power : (digits.length + d.exponent - 1) + 1 - digits.length = d.exponent := by omega
    obtain ⟨sign, marked, signs⟩ := written_sign (digits.length + d.exponent - 1)
    have spelled := spellsValue_scientific all ne_nil lead signs allPower somePower powerSize
    rw [power] at spelled
    rw [String.toList_append, String.toList_append, String.toList_append, String.toList_ofList,
      toList_point, marked, padded]
    simpa only [List.append_assoc] using spelled

theorem word_float {layout : Decimal.Layout} {x : Float} {b : Decimal.Binary}
    (finite : Decimal.Binary.ofFloat? x = some b) :
    Word (layout.text x).toList (.float x) := by
  obtain ⟨digits, power, same, number⟩ :=
    spellsValue_place layout (Decimal.shortestDigits b) b.negative
  have reads := Decimal.scaled_of_value finite same
  rw [reads] at number
  unfold Decimal.Layout.text
  rw [finite]
  dsimp only
  cases negative : b.negative with
  | true =>
      rw [negative] at number
      rw [if_pos rfl, String.toList_append]
      exact number.minus
  | false =>
      rw [negative] at number
      rw [if_neg Bool.false_ne_true, String.empty_append]
      exact number.word

end Gleaner.Json
