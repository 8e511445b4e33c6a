import Gleaner.Text.Blank
import Mathlib.Data.List.DropRight

/-!
# Trimmed texts

Trimming takes away nothing but blanks, so a text that says something still does, and it takes
them all, so trimming again changes nothing. Trimmed texts joined by line ends are trimmed.
-/

set_option autoImplicit false

namespace Gleaner.Text

/-- What is left says something if and only if there was something to leave. -/
theorem all_trimBy (drop : Char → Bool) (cs : List Char) :
    (trimBy drop cs).all drop = cs.all drop := by
  have front (cs : List Char) : (cs.dropWhile drop).all drop = cs.all drop := by
    rw [← Bool.not_inj_iff, List.not_all_eq_any_not, List.any_dropWhile]
  rw [trimBy, List.all_reverse, front, List.all_reverse, front]

theorem isBlankText_strip (text : String) : isBlankText (strip text) = isBlankText text := by
  rw [isBlankText, strip, String.toList_ofList, all_trimBy]
  rfl

theorem strip_strip (text : String) : strip (strip text) = strip text := by
  rw [strip, strip, String.toList_ofList, trimBy_idem]

theorem strip_ne_empty {text : String} (some : isBlankText text = false) :
    strip text ≠ "" := by
  intro empty
  have blank := isBlankText_strip text
  rw [empty, some] at blank
  cases blank

/-- A text that begins and ends with no blank is trimmed, and no other is. -/
theorem trimBy_eq_self {drop : Char → Bool} {cs : List Char} :
    trimBy drop cs = cs ↔
      (∀ c ∈ cs.head?, drop c = false) ∧ ∀ c ∈ cs.getLast?, drop c = false := by
  have fixed (cs : List Char) : cs.dropWhile drop = cs ↔ ∀ c ∈ cs.head?, drop c = false := by
    cases cs with
    | nil => simp
    | cons c rest =>
        rw [List.dropWhile_eq_self_iff]
        simp
  have last : (∀ c ∈ cs.getLast?, drop c = false) ↔ cs.reverse.dropWhile drop = cs.reverse := by
    rw [fixed, List.head?_reverse]
  rw [← fixed, last]
  constructor
  · intro trimmed
    have inside : cs.length ≤ (cs.dropWhile drop).length := by
      calc cs.length = (trimBy drop cs).length := by rw [trimmed]
        _ = ((cs.dropWhile drop).reverse.dropWhile drop).length := List.length_reverse
        _ ≤ (cs.dropWhile drop).reverse.length := (List.dropWhile_sublist drop).length_le
        _ = (cs.dropWhile drop).length := List.length_reverse
    have front : cs.dropWhile drop = cs := (List.dropWhile_sublist drop).eq_of_length_le inside
    rw [trimBy, front] at trimmed
    exact ⟨front, List.reverse_eq_iff.mp trimmed⟩
  · rintro ⟨front, back⟩
    rw [trimBy, front, back, List.reverse_reverse]

theorem strip_eq_self {text : String} :
    strip text = text ↔ (∀ c ∈ text.toList.head?, isBlank c = false) ∧
      ∀ c ∈ text.toList.getLast?, isBlank c = false := by
  rw [← trimBy_eq_self, strip, ← String.toList_inj, String.toList_ofList]

/-- A text without any blank is trimmed. -/
theorem strip_of_solid {text : String} (solid : ∀ c ∈ text.toList, isBlank c = false) :
    strip text = text :=
  strip_eq_self.mpr ⟨fun c first => solid c (List.mem_of_mem_head? first),
    fun c last => solid c (List.mem_of_mem_getLast? last)⟩

theorem isBlank_of_isDigit {c : Char} (digit : c.isDigit = true) : isBlank c = false := by
  have least : 48 ≤ c.toNat ∧ c.toNat ≤ 57 := Char.isDigit_iff_toNat.mp digit
  simp only [isBlank, Bool.or_eq_false_iff, Bool.and_eq_false_iff, decide_eq_false_iff_not]
  omega

theorem isBlank_of_mem_toString {n : Int} : ∀ c ∈ (toString n).toList, isBlank c = false := by
  have digits {m : Nat} {c : Char} (among : c ∈ (Nat.repr m).toList) : isBlank c = false :=
    isBlank_of_isDigit (Nat.isDigit_of_mem_toDigits (by decide) (by decide) (Nat.toList_repr ▸ among))
  intro c among
  rw [Int.toString_eq_repr] at among
  cases n with
  | ofNat m => exact digits among
  | negSucc m =>
      rw [Int.repr, String.toList_append, List.mem_append] at among
      rcases among with sign | among
      · rw [List.mem_singleton.mp sign]
        rfl
      · exact digits among

/-- A trimmed text says something unless it is empty. -/
theorem isBlankText_of_strip {text : String} (kept : strip text = text) (filled : text ≠ "") :
    isBlankText text = false := by
  cases chars : text.toList with
  | nil => exact absurd (String.toList_eq_nil_iff.mp chars) filled
  | cons c rest =>
      have first : isBlank c = false := (strip_eq_self.mp kept).1 c (by rw [chars]; rfl)
      rw [isBlankText, chars, List.all_cons, first]
      rfl

/-- Trimmed texts that say something, joined by line ends, are such a text again. -/
theorem strip_joined {texts : List String} (some : texts ≠ [])
    (trimmed : ∀ text ∈ texts, text ≠ "" ∧ strip text = text) :
    "\n".intercalate texts ≠ "" ∧ strip ("\n".intercalate texts) = "\n".intercalate texts := by
  induction texts with
  | nil => exact absurd rfl some
  | cons first rest ih =>
      obtain ⟨⟨named, kept⟩, others⟩ := List.forall_mem_cons.mp trimmed
      cases rest with
      | nil =>
          rw [String.intercalate_singleton]
          exact ⟨named, kept⟩
      | cons second rest =>
          obtain ⟨restNamed, restKept⟩ := ih (List.cons_ne_nil _ _) others
          rw [String.intercalate_cons_cons]
          generalize "\n".intercalate (second :: rest) = joined at restNamed restKept
          refine ⟨by simp [named], ?_⟩
          have filled : first.toList ≠ [] := mt String.toList_eq_nil_iff.mp named
          have restFilled : joined.toList ≠ [] := mt String.toList_eq_nil_iff.mp restNamed
          rw [strip_eq_self] at kept restKept ⊢
          rw [String.toList_append, String.toList_append, List.append_assoc]
          constructor
          · rw [List.head?_append_of_ne_nil _ filled]
            exact kept.1
          · rw [← List.append_assoc, List.getLast?_append_of_ne_nil _ restFilled]
            exact restKept.2

end Gleaner.Text
