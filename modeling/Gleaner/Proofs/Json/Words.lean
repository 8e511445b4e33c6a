import Gleaner.Proofs.Json.Balance

/-!
# Names and numbers

A name or a number ends where something begins that cannot go on with it. What the reader takes
for one is a piece of plain characters that reads the same before every delimiter.
-/

set_option autoImplicit false

namespace Gleaner.Json

/-- What may follow a value: nothing, a blank, a comma or a closing bracket. -/
def Delimited (cs : List Char) : Prop :=
  ∀ c ∈ cs.head?, isGap c = true ∨ c = ',' ∨ c = ']' ∨ c = '\x7d'

def isNumeric (c : Char) : Bool :=
  isAsciiDigit c || c = '.' || c = 'e' || c = 'E' || c = '+' || c = '-'

/-- A piece that spells a name or a number. -/
structure Word (piece : List Char) (value : Json) : Prop where
  scans : ∀ tail, Delimited tail → scanWord (piece ++ tail) = .ok (value, tail)
  plain : ∀ c ∈ piece, c ≠ '"' ∧ c ≠ '\x7b' ∧ c ≠ '\x7d' ∧ c ≠ '[' ∧ c ≠ ']' ∧ isGap c = false
  ne_nil : piece ≠ []

/-!
## Digits
-/

theorem takeWhile_digits {digits tail : List Char} (all : ∀ c ∈ digits, isAsciiDigit c = true)
    (stops : ∀ c ∈ tail.head?, isAsciiDigit c = false) :
    (digits ++ tail).takeWhile isAsciiDigit = digits ∧
      (digits ++ tail).dropWhile isAsciiDigit = tail := by
  rw [List.takeWhile_append_of_pos all, List.dropWhile_append_of_pos all]
  cases tail with
  | nil => exact ⟨List.append_nil digits, rfl⟩
  | cons c rest =>
      have stop := stops c rfl
      rw [List.takeWhile_cons, List.dropWhile_cons, stop]
      exact ⟨List.append_nil digits, rfl⟩

theorem isAsciiDigit_of_mem_takeWhile {cs : List Char} :
    ∀ c ∈ cs.takeWhile isAsciiDigit, isAsciiDigit c = true := by
  intro c found
  exact List.all_eq_true.mp List.all_takeWhile c found

theorem isAsciiDigit_zero : ∀ c ∈ ['0'], isAsciiDigit c = true :=
  List.forall_mem_singleton.mpr rfl

theorem Delimited.not_numeric {tail : List Char} (delimited : Delimited tail) :
    ∀ c ∈ tail.head?, isNumeric c = false := by
  intro c found
  rcases delimited c found with gap | rfl | rfl | rfl
  · simp only [isGap, Bool.or_eq_true, decide_eq_true_eq] at gap
    rcases gap with ((rfl | rfl) | rfl) | rfl <;> decide
  · decide
  · decide
  · decide

/-!
## The parts of a number
-/

section Parts

variable {digits tail : List Char} (all : ∀ c ∈ digits, isAsciiDigit c = true)
  (some : digits ≠ []) (stops : ∀ c ∈ tail.head?, isAsciiDigit c = false)

theorem scanFraction_none (noPoint : ∀ c ∈ tail.head?, c ≠ '.') :
    scanFraction tail = ([], tail) := by
  cases tail with
  | nil => rfl
  | cons c rest =>
      have other := noPoint c rfl
      simp [scanFraction, other]

include all some stops

theorem scanFraction_digits : scanFraction ('.' :: digits ++ tail) = (digits, tail) := by
  cases digits with
  | nil => exact absurd rfl some
  | cons d rest =>
      obtain ⟨digit, others⟩ := List.forall_mem_cons.mp all
      obtain ⟨taken, left⟩ := takeWhile_digits others stops
      simp [scanFraction, digit, taken, left]

theorem scanPower_digits (negative : Bool) (whole : List Char) :
    scanPower negative whole (digits ++ tail) =
      (Option.some (if negative then -(naturalOf digits : Int) else naturalOf digits), tail) := by
  obtain ⟨taken, left⟩ := takeWhile_digits all stops
  unfold scanPower
  rw [taken, left]
  cases digits with
  | nil => exact absurd rfl some
  | cons d rest => rfl

end Parts

/-- The sign of a power of ten, which may be left out. -/
inductive PowerSign : List Char → Bool → Prop where
  | minus : PowerSign ['-'] true
  | plus : PowerSign ['+'] false
  | none : PowerSign [] false

theorem scanExponent_none {tail : List Char} (noMark : ∀ c ∈ tail.head?, c ≠ 'e' ∧ c ≠ 'E') :
    scanExponent tail = (none, tail) := by
  cases tail with
  | nil => rfl
  | cons c rest =>
      obtain ⟨notSmall, notLarge⟩ := noMark c rfl
      simp [scanExponent, notSmall, notLarge]

theorem scanExponent_digits {mark : Char} {sign digits tail : List Char} {negative : Bool}
    (marks : mark = 'e' ∨ mark = 'E') (signs : PowerSign sign negative)
    (all : ∀ c ∈ digits, isAsciiDigit c = true) (some : digits ≠ [])
    (stops : ∀ c ∈ tail.head?, isAsciiDigit c = false) :
    scanExponent (mark :: sign ++ digits ++ tail) =
      (Option.some (if negative then -(naturalOf digits : Int) else naturalOf digits), tail) := by
  have marked : (mark = 'e' || mark = 'E') = true := by
    rcases marks with rfl | rfl <;> rfl
  have power (whole : List Char) := scanPower_digits all some stops negative whole
  cases signs with
  | minus =>
      show scanExponent (mark :: '-' :: (digits ++ tail)) = _
      unfold scanExponent
      dsimp only
      rw [if_pos marked]
      exact power _
  | plus =>
      show scanExponent (mark :: '+' :: (digits ++ tail)) = _
      unfold scanExponent
      dsimp only
      rw [if_pos marked]
      exact power _
  | none =>
      show scanExponent (mark :: (digits ++ tail)) = _
      unfold scanExponent
      dsimp only
      rw [if_pos marked]
      cases digits with
      | nil => exact absurd rfl some
      | cons d rest =>
          have digit := all d List.mem_cons_self
          split
          next same =>
            rw [(List.cons_eq_cons.mp same).1] at digit
            cases digit
          next same =>
            rw [(List.cons_eq_cons.mp same).1] at digit
            cases digit
          next => exact power _

theorem isNumeric_digit {c : Char} (digit : isAsciiDigit c = true) : isNumeric c = true := by
  simp [isNumeric, digit]

/-- A fraction, which may be left out, and its digits. -/
inductive FractionPart : List Char → List Char → Prop where
  | none : FractionPart [] []
  | some {digits : List Char} (all : ∀ c ∈ digits, isAsciiDigit c = true) (ne_nil : digits ≠ []) :
      FractionPart ('.' :: digits) digits

namespace FractionPart

variable {piece digits : List Char} (part : FractionPart piece digits)

include part

theorem scans {tail : List Char}
    (stops : ∀ c ∈ tail.head?, isAsciiDigit c = false ∧ c ≠ '.') :
    scanFraction (piece ++ tail) = (digits, tail) := by
  cases part with
  | none => exact scanFraction_none fun c found => (stops c found).2
  | some all some => exact scanFraction_digits all some fun c found => (stops c found).1

theorem begins : ∀ c ∈ piece.head?, c = '.' := by
  cases part with
  | none => simp
  | some => simp

theorem numeric : ∀ c ∈ piece, isNumeric c = true := by
  cases part with
  | none => exact List.forall_mem_nil _
  | some all =>
      exact List.forall_mem_cons.mpr ⟨rfl, fun c found => isNumeric_digit (all c found)⟩

end FractionPart

theorem scanFraction_part (cs : List Char) :
    ∃ piece, cs = piece ++ (scanFraction cs).2 ∧ FractionPart piece (scanFraction cs).1 := by
  have unfolded := scanFraction.eq_def cs
  split at unfolded
  next d rest =>
    split at unfolded
    next digit =>
      have all : ∀ c ∈ d :: rest.takeWhile isAsciiDigit, isAsciiDigit c = true :=
        List.forall_mem_cons.mpr ⟨digit, isAsciiDigit_of_mem_takeWhile⟩
      rw [unfolded]
      refine ⟨_, ?_, .some all (List.cons_ne_nil _ _)⟩
      simp [List.takeWhile_append_dropWhile]
    next =>
      rw [unfolded]
      exact ⟨[], rfl, .none⟩
  next =>
    rw [unfolded]
    exact ⟨[], rfl, .none⟩

/-- A power of ten, which may be left out. -/
inductive PowerPart : List Char → Option Int → Prop where
  | none : PowerPart [] none
  | some {mark : Char} {sign digits : List Char} {negative : Bool}
      (marks : mark = 'e' ∨ mark = 'E') (signs : PowerSign sign negative)
      (all : ∀ c ∈ digits, isAsciiDigit c = true) (ne_nil : digits ≠ []) :
      PowerPart (mark :: sign ++ digits)
        (some (if negative then -(naturalOf digits : Int) else naturalOf digits))

namespace PowerPart

variable {piece : List Char} {power : Option Int} (part : PowerPart piece power)

include part

theorem scans {tail : List Char}
    (stops : ∀ c ∈ tail.head?, isAsciiDigit c = false ∧ c ≠ 'e' ∧ c ≠ 'E') :
    scanExponent (piece ++ tail) = (power, tail) := by
  cases part with
  | none => exact scanExponent_none fun c found => (stops c found).2
  | some marks signs all some =>
      exact scanExponent_digits marks signs all some fun c found => (stops c found).1

theorem begins : ∀ c ∈ piece.head?, c = 'e' ∨ c = 'E' := by
  cases part with
  | none => simp
  | some marks => simpa using marks

theorem numeric : ∀ c ∈ piece, isNumeric c = true := by
  cases part with
  | none => exact List.forall_mem_nil _
  | some marks signs all =>
      intro c found
      rcases List.mem_append.mp found with before | digit
      · rcases List.mem_cons.mp before with rfl | among
        · rcases marks with rfl | rfl <;> rfl
        · cases signs with
          | none => cases among
          | _ => rw [List.mem_singleton.mp among]; rfl
      · exact isNumeric_digit (all c digit)

end PowerPart

theorem scanPower_cases (negative : Bool) (whole cs : List Char) :
    scanPower negative whole cs = (none, whole) ∨
      ∃ digits rest, cs = digits ++ rest ∧ digits ≠ [] ∧
        (∀ c ∈ digits, isAsciiDigit c = true) ∧
        scanPower negative whole cs =
          (some (if negative then -(naturalOf digits : Int) else naturalOf digits), rest) := by
  unfold scanPower
  split
  next => exact .inl rfl
  next digits found =>
    refine .inr ⟨cs.takeWhile isAsciiDigit, cs.dropWhile isAsciiDigit,
      List.takeWhile_append_dropWhile.symm, fun none => found none,
      isAsciiDigit_of_mem_takeWhile, rfl⟩

theorem scanExponent_part (cs : List Char) :
    ∃ piece, cs = piece ++ (scanExponent cs).2 ∧ PowerPart piece (scanExponent cs).1 := by
  have nothing (none : scanExponent cs = (none, cs)) :
      ∃ piece, cs = piece ++ (scanExponent cs).2 ∧ PowerPart piece (scanExponent cs).1 := by
    rw [none]
    exact ⟨[], rfl, .none⟩
  have unfolded := scanExponent.eq_def cs
  split at unfolded
  next => exact nothing unfolded
  next mark after =>
    split at unfolded
    next marked =>
      have marks : mark = 'e' ∨ mark = 'E' := by simpa using marked
      have powered {sign signed : List Char} {negative : Bool} (split : after = sign ++ signed)
          (signs : PowerSign sign negative)
          (scanned : scanExponent (mark :: after) = scanPower negative (mark :: after) signed) :
          ∃ piece, mark :: after = piece ++ (scanExponent (mark :: after)).2 ∧
            PowerPart piece (scanExponent (mark :: after)).1 := by
        rcases scanPower_cases negative (mark :: after) signed with
          none | ⟨digits, rest, rfl, some, all, found⟩
        · exact nothing (scanned.trans none)
        · rw [scanned, found, split]
          exact ⟨mark :: sign ++ digits, by simp, .some marks signs all some⟩
      split at unfolded
      next signed => exact powered rfl .minus unfolded
      next signed => exact powered rfl .plus unfolded
      next => exact powered rfl .none unfolded
    next => exact nothing unfolded

/-!
## Numbers
-/

/-- The digits before the point: a single zero, or as many as there are. -/
def wholeDigits (cs : List Char) : List Char :=
  match cs with
  | '0' :: _ => ['0']
  | _ => cs.takeWhile isAsciiDigit

/-- The number that digits, a fraction and a power make. -/
def numberOf (negative : Bool) (whole fraction : List Char) (power : Option Int) : Json :=
  if fraction.isEmpty && power.isNone then
    .int (if negative then -(naturalOf whole : Int) else naturalOf whole)
  else
    .float (Decimal.scaled negative (naturalOf (whole ++ fraction))
      (power.getD 0 - fraction.length))

theorem wholeDigits_spec (cs : List Char) :
    cs = wholeDigits cs ++ cs.drop (wholeDigits cs).length ∧
      (∀ c ∈ wholeDigits cs, isAsciiDigit c = true) ∧
      (wholeDigits cs = ['0'] ∨ (wholeDigits cs).head? ≠ some '0') := by
  unfold wholeDigits
  split
  next => exact ⟨rfl, isAsciiDigit_zero, .inl rfl⟩
  next notZero =>
    refine ⟨?_, isAsciiDigit_of_mem_takeWhile, .inr ?_⟩
    · exact (List.prefix_iff_eq_append.mp (List.takeWhile_prefix isAsciiDigit)).symm
    · cases cs with
      | nil => simp
      | cons c rest =>
          have other : c ≠ '0' := fun same => notZero rest (by rw [same])
          rw [List.takeWhile_cons]
          split <;> simp [other]

theorem wholeDigits_append {digits tail : List Char} (all : ∀ c ∈ digits, isAsciiDigit c = true)
    (lead : digits = ['0'] ∨ digits.head? ≠ some '0') (some : digits ≠ [])
    (stops : ∀ c ∈ tail.head?, isAsciiDigit c = false) : wholeDigits (digits ++ tail) = digits := by
  rcases lead with rfl | notZero
  · rfl
  · cases digits with
    | nil => exact absurd rfl some
    | cons d rest =>
        have other : d ≠ '0' := by simpa using notZero
        have taken := (takeWhile_digits all stops).1
        unfold wholeDigits
        split
        next same => exact absurd (List.cons_eq_cons.mp same).1 other
        next => exact taken

theorem scanNumber_parts {cs whole fraction after rest : List Char} {power : Option Int}
    (negative : Bool) (wholes : wholeDigits cs = whole) (some : whole ≠ [])
    (fractions : scanFraction (cs.drop whole.length) = (fraction, after))
    (powers : scanExponent after = (power, rest)) :
    scanNumber negative cs = Option.some (numberOf negative whole fraction power, rest) := by
  have unfolded : scanNumber negative cs =
      if (wholeDigits cs).isEmpty then none
      else
        let fraction := scanFraction (cs.drop (wholeDigits cs).length)
        let power := scanExponent fraction.2
        if fraction.1.isEmpty && power.1.isNone then
          Option.some (.int (if negative then -(naturalOf (wholeDigits cs) : Int)
            else naturalOf (wholeDigits cs)), power.2)
        else
          Option.some (.float (Decimal.scaled negative (naturalOf (wholeDigits cs ++ fraction.1))
            (power.1.getD 0 - fraction.1.length)), power.2) := rfl
  have notEmpty : ¬whole.isEmpty = true := by simpa using some
  rw [unfolded, wholes, if_neg notEmpty]
  dsimp only
  rw [fractions]
  dsimp only
  rw [powers]
  unfold numberOf
  split <;> rfl

theorem head?_append {P : Char → Prop} {first second : List Char} (begins : ∀ c ∈ first.head?, P c)
    (beginsThen : ∀ c ∈ second.head?, P c) : ∀ c ∈ (first ++ second).head?, P c := by
  cases first with
  | nil => exact beginsThen
  | cons c rest => exact begins

structure Unsigned (negative : Bool) (piece : List Char) (value : Json) : Prop where
  scans : ∀ tail, (∀ c ∈ tail.head?, isNumeric c = false) →
    scanNumber negative (piece ++ tail) = some (value, tail)
  numeric : ∀ c ∈ piece, isNumeric c = true
  begins : ∃ digit rest, piece = digit :: rest ∧ isAsciiDigit digit = true

theorem Unsigned.ofParts {whole fraction fractionPiece powerPiece : List Char} {power : Option Int}
    (negative : Bool) (all : ∀ c ∈ whole, isAsciiDigit c = true) (ne_nil : whole ≠ [])
    (lead : whole = ['0'] ∨ whole.head? ≠ some '0')
    (fractions : FractionPart fractionPiece fraction) (powers : PowerPart powerPiece power) :
    Unsigned negative (whole ++ (fractionPiece ++ powerPiece))
      (numberOf negative whole fraction power) := by
  constructor
  · intro tail stops
    have plain (c : Char) (other : isNumeric c = false) :
        isAsciiDigit c = false ∧ c ≠ '.' ∧ c ≠ 'e' ∧ c ≠ 'E' := by
      simp [isNumeric] at other
      simp [other]
    have point : ∀ c ∈ fractionPiece.head?, isAsciiDigit c = false := by
      intro c found
      rw [fractions.begins c found]
      rfl
    have mark : ∀ c ∈ powerPiece.head?, isAsciiDigit c = false ∧ c ≠ '.' := by
      intro c found
      rcases powers.begins c found with rfl | rfl <;> decide
    have afterFraction := head?_append mark fun c found =>
      ⟨(plain c (stops c found)).1, (plain c (stops c found)).2.1⟩
    have afterWhole := head?_append point fun c found => (afterFraction c found).1
    rw [List.append_assoc, List.append_assoc]
    refine scanNumber_parts negative (wholeDigits_append all lead ne_nil afterWhole) ne_nil ?_
      (powers.scans fun c found => ?_)
    · rw [List.drop_left]
      exact fractions.scans afterFraction
    · exact ⟨(plain c (stops c found)).1, (plain c (stops c found)).2.2⟩
  · intro c found
    rcases List.mem_append.mp found with inWhole | part
    · exact isNumeric_digit (all c inWhole)
    · rcases List.mem_append.mp part with inFraction | inPower
      · exact fractions.numeric c inFraction
      · exact powers.numeric c inPower
  · cases whole with
    | nil => exact absurd rfl ne_nil
    | cons digit rest => exact ⟨digit, _, rfl, all digit List.mem_cons_self⟩

theorem unsigned_of_scanNumber {negative : Bool} {cs rest : List Char} {value : Json}
    (scanned : scanNumber negative cs = some (value, rest)) :
    ∃ piece, cs = piece ++ rest ∧ Unsigned negative piece value := by
  obtain ⟨split, all, lead⟩ := wholeDigits_spec cs
  cases wholes : wholeDigits cs with
  | nil =>
      have nothing : scanNumber negative cs = none := by
        have unfolded : scanNumber negative cs = if (wholeDigits cs).isEmpty then none else _ := rfl
        rw [unfolded, wholes]
        rfl
      rw [nothing] at scanned
      cases scanned
  | cons digit others =>
      obtain ⟨fractionPiece, afterWhole, fractions⟩ :=
        scanFraction_part (cs.drop (digit :: others).length)
      obtain ⟨powerPiece, afterFraction, powers⟩ :=
        scanExponent_part (scanFraction (cs.drop (digit :: others).length)).2
      have number := scanNumber_parts negative wholes (List.cons_ne_nil _ _)
        (Prod.eta (scanFraction (cs.drop (digit :: others).length))).symm (Prod.eta _).symm
      rw [number] at scanned
      cases scanned
      rw [wholes] at split all lead
      refine ⟨digit :: others ++ (fractionPiece ++ powerPiece), ?_,
        .ofParts negative all (List.cons_ne_nil _ _) lead fractions powers⟩
      rw [List.append_assoc, List.append_assoc, ← afterFraction, ← afterWhole]
      exact split

/-!
## Words
-/

theorem scanWord_digit {digit : Char} {rest : List Char} (isDigit : isAsciiDigit digit = true) :
    scanWord (digit :: rest) =
      (scanNumber false (digit :: rest)).elim (stop .expectingValue (digit :: rest)) .ok := by
  unfold scanWord
  split
  case h_8 => rfl
  all_goals
    next same =>
      rw [(List.cons_eq_cons.mp same).1] at isDigit
      cases isDigit

theorem scanWord_minus {digit : Char} {rest : List Char} (isDigit : isAsciiDigit digit = true) :
    scanWord ('-' :: digit :: rest) =
      (scanNumber true (digit :: rest)).elim (stop .expectingValue ('-' :: digit :: rest)) .ok := by
  have notInfinity : digit ≠ 'I' := by
    rintro rfl
    cases isDigit
  rw [scanWord]
  rintro other same
  exact notInfinity (List.cons_eq_cons.mp same).1

theorem Word.ofLetters {piece : List Char} {value : Json}
    (scans : ∀ tail, scanWord (piece ++ tail) = .ok (value, tail))
    (plain : piece.all fun c => c ≠ '"' && c ≠ '\x7b' && c ≠ '\x7d' && c ≠ '[' && c ≠ ']' && !isGap c)
    (ne_nil : piece ≠ []) : Word piece value := by
  refine ⟨fun tail _ => scans tail, ?_, ne_nil⟩
  intro c found
  simpa [and_assoc] using List.all_eq_true.mp plain c found

theorem Word.ofNull : Word ['n', 'u', 'l', 'l'] .null :=
  .ofLetters (fun _ => rfl) (by decide) (by decide)

theorem Word.ofTrue : Word ['t', 'r', 'u', 'e'] (.bool true) :=
  .ofLetters (fun _ => rfl) (by decide) (by decide)

theorem Word.ofFalse : Word ['f', 'a', 'l', 's', 'e'] (.bool false) :=
  .ofLetters (fun _ => rfl) (by decide) (by decide)

theorem Word.ofNaN : Word ['N', 'a', 'N'] (.float (0.0 / 0.0)) :=
  .ofLetters (fun _ => rfl) (by decide) (by decide)

theorem Word.ofInfinity : Word ['I', 'n', 'f', 'i', 'n', 'i', 't', 'y'] (.float (1.0 / 0.0)) :=
  .ofLetters (fun _ => rfl) (by decide) (by decide)

theorem Word.ofMinusInfinity :
    Word ['-', 'I', 'n', 'f', 'i', 'n', 'i', 't', 'y'] (.float (-1.0 / 0.0)) :=
  .ofLetters (fun _ => rfl) (by decide) (by decide)

theorem isNumeric_plain {c : Char} (numeric : isNumeric c = true) :
    c ≠ '"' ∧ c ≠ '\x7b' ∧ c ≠ '\x7d' ∧ c ≠ '[' ∧ c ≠ ']' ∧ isGap c = false := by
  have gap : isGap c = false := by
    cases gap : isGap c with
    | false => rfl
    | true =>
        simp only [isGap, Bool.or_eq_true, decide_eq_true_eq] at gap
        rcases gap with ((rfl | rfl) | rfl) | rfl <;> cases numeric
  refine ⟨?_, ?_, ?_, ?_, ?_, gap⟩
  all_goals
    rintro rfl
    cases numeric

theorem Unsigned.word {piece : List Char} {value : Json} (number : Unsigned false piece value) :
    Word piece value := by
  obtain ⟨digit, rest, rfl, isDigit⟩ := number.begins
  refine ⟨fun tail delimited => ?_, fun c found => isNumeric_plain (number.numeric c found),
    List.cons_ne_nil _ _⟩
  have scanned := number.scans tail delimited.not_numeric
  rw [List.cons_append] at scanned ⊢
  rw [scanWord_digit isDigit, scanned]
  rfl

theorem Unsigned.minus {piece : List Char} {value : Json} (number : Unsigned true piece value) :
    Word ('-' :: piece) value := by
  obtain ⟨digit, rest, rfl, isDigit⟩ := number.begins
  refine ⟨fun tail delimited => ?_, ?_, List.cons_ne_nil _ _⟩
  · have scanned := number.scans tail delimited.not_numeric
    rw [List.cons_append] at scanned
    rw [List.cons_append, List.cons_append, scanWord_minus isDigit, scanned]
    rfl
  · intro c found
    rcases List.mem_cons.mp found with rfl | among
    · decide
    · exact isNumeric_plain (number.numeric c among)

theorem word_of_scanWord {cs rest : List Char} {value : Json}
    (scanned : scanWord cs = .ok (value, rest)) : ∃ piece, cs = piece ++ rest ∧ Word piece value := by
  unfold scanWord at scanned
  split at scanned
  case h_1 =>
    cases scanned
    exact ⟨_, rfl, .ofNull⟩
  case h_2 =>
    cases scanned
    exact ⟨_, rfl, .ofTrue⟩
  case h_3 =>
    cases scanned
    exact ⟨_, rfl, .ofFalse⟩
  case h_4 =>
    cases scanned
    exact ⟨_, rfl, .ofNaN⟩
  case h_5 =>
    cases scanned
    exact ⟨_, rfl, .ofInfinity⟩
  case h_6 =>
    cases scanned
    exact ⟨_, rfl, .ofMinusInfinity⟩
  case h_7 after _ =>
    cases number : scanNumber true after with
    | none =>
        rw [number] at scanned
        cases scanned
    | some found =>
        rw [number] at scanned
        cases scanned
        obtain ⟨piece, rfl, unsigned⟩ := unsigned_of_scanNumber number
        exact ⟨'-' :: piece, rfl, unsigned.minus⟩
  case h_8 =>
    cases number : scanNumber false cs with
    | none =>
        rw [number] at scanned
        cases scanned
    | some found =>
        rw [number] at scanned
        cases scanned
        obtain ⟨piece, rfl, unsigned⟩ := unsigned_of_scanNumber number
        exact ⟨piece, rfl, unsigned.word⟩

end Gleaner.Json
