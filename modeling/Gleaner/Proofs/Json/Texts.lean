import Gleaner.Proofs.Json.Balance

/-!
# Quoted texts

A piece that reads as a text does so whatever follows its closing quote, and takes the brace
matcher from inside the quotes to outside of them.
-/

set_option autoImplicit false

namespace Gleaner.Json

/-- A piece that spells a text after its opening quote, with the closing one. -/
structure Quoted (draft : Draft) (piece : List Char) (text : String) : Prop where
  scans : ∀ opening tail, scanText opening draft (piece ++ tail) = .ok (text, tail)
  walks : ∀ depth, Walks (.inside depth) (.open depth) piece

theorem hexValue?_plain {c : Char} (digit : (hexValue? c).isSome = true) : c ≠ '"' ∧ c ≠ '\\' := by
  constructor
  · rintro rfl
    cases digit
  · rintro rfl
    cases digit

theorem unitValue?_plain {a b c d : Char} {n : Nat} (units : unitValue? a b c d = some n) :
    ∀ digit ∈ [a, b, c, d], digit ≠ '"' ∧ digit ≠ '\\' := by
  simp only [unitValue?, Option.bind_eq_bind, Option.bind_eq_some_iff] at units
  obtain ⟨_, first, _, second, _, third, _, fourth, _⟩ := units
  simp only [List.forall_mem_cons]
  exact ⟨hexValue?_plain (by rw [first]; rfl), hexValue?_plain (by rw [second]; rfl),
    hexValue?_plain (by rw [third]; rfl), hexValue?_plain (by rw [fourth]; rfl),
    List.forall_mem_nil _⟩

/-!
## One step of the reader
-/

section Steps

variable {draft : Draft} {c e : Char} {cs : List Char} {n : Nat} (opening : Nat)

theorem scanText_push (notQuote : c ≠ '"') (notEscape : c ≠ '\\') (printable : ¬c.toNat < 32) :
    scanText opening draft (c :: cs) = scanText opening (draft.push c) cs := by
  rw [scanText, if_neg printable]
  all_goals simp [notQuote, notEscape]

theorem scanText_unit {first second third fourth : Char}
    (units : unitValue? first second third fourth = some n) (more : cs ≠ []) :
    scanText opening draft ('\\' :: 'u' :: first :: second :: third :: fourth :: cs) =
      scanText opening (draft.pushUnit n) cs := by
  simp [scanText, units, more]

theorem scanText_escape (escape : simpleEscape? c = some e) :
    scanText opening draft ('\\' :: c :: cs) = scanText opening (draft.push e) cs := by
  have notUnit : c ≠ 'u' := by
    rintro rfl
    cases escape
  rw [scanText, escape]
  all_goals simp [notUnit]

end Steps

namespace Quoted

variable {draft : Draft} {piece : List Char} {text : String}

theorem ends : Quoted draft ['"'] (String.ofList draft.settled.reverse) :=
  ⟨fun _ _ => by simp [scanText], fun _ => .unquote⟩

theorem ne_nil (quoted : Quoted draft piece text) : piece ≠ [] := by
  rintro rfl
  have nothing := quoted.scans 0 []
  simp [scanText] at nothing

theorem push {c : Char} (quoted : Quoted (draft.push c) piece text) (notQuote : c ≠ '"')
    (notEscape : c ≠ '\\') (printable : ¬c.toNat < 32) : Quoted draft (c :: piece) text := by
  constructor
  · intro opening tail
    rw [List.cons_append, scanText_push opening notQuote notEscape printable]
    exact quoted.scans opening tail
  · exact fun depth => (Walks.quoted notQuote notEscape).cons (quoted.walks depth)

theorem escape {c e : Char} (quoted : Quoted (draft.push e) piece text)
    (escape : simpleEscape? c = some e) : Quoted draft ('\\' :: c :: piece) text := by
  constructor
  · intro opening tail
    rw [List.cons_append, List.cons_append, scanText_escape opening escape]
    exact quoted.scans opening tail
  · exact fun depth => (Walks.escaped c).append (quoted.walks depth)

theorem unit {first second third fourth : Char} {n : Nat}
    (quoted : Quoted (draft.pushUnit n) piece text)
    (units : unitValue? first second third fourth = some n) :
    Quoted draft ('\\' :: 'u' :: first :: second :: third :: fourth :: piece) text := by
  constructor
  · intro opening tail
    have more : piece ++ tail ≠ [] := by simp [quoted.ne_nil]
    simp only [List.cons_append]
    rw [scanText_unit opening units more]
    exact quoted.scans opening tail
  · intro depth
    have plain := unitValue?_plain units
    simp only [List.forall_mem_cons] at plain
    obtain ⟨one, two, three, four, _⟩ := plain
    exact (Walks.escaped 'u').append ((Walks.quoted one.1 one.2).cons ((Walks.quoted two.1 two.2).cons
      ((Walks.quoted three.1 three.2).cons ((Walks.quoted four.1 four.2).cons (quoted.walks depth)))))

end Quoted

/-- Whatever the reader takes for a text is spelled by the piece that it took. -/
theorem quoted_of_scanText {opening : Nat} {draft : Draft} {cs rest : List Char} {text : String}
    (scanned : scanText opening draft cs = .ok (text, rest)) :
    ∃ piece, cs = piece ++ rest ∧ Quoted draft piece text := by
  fun_induction scanText opening draft cs with
  | case1 => cases scanned
  | case2 draft rest =>
      cases scanned
      exact ⟨['"'], rfl, .ends⟩
  | case3 => cases scanned
  | case4 => cases scanned
  | case5 => cases scanned
  | case6 draft _ _ _ _ _ _ units _ ih =>
      obtain ⟨piece, rfl, quoted⟩ := ih scanned
      exact ⟨_, rfl, quoted.unit units⟩
  | case7 => cases scanned
  | case8 draft _ _ _ _ _ escape ih =>
      obtain ⟨piece, rfl, quoted⟩ := ih scanned
      exact ⟨_, rfl, quoted.escape escape⟩
  | case9 => cases scanned
  | case10 => cases scanned
  | case11 draft c others notQuote atEnd _ _ notEscape printable ih =>
      have plain : c ≠ '\\' := by
        cases others with
        | nil => exact fun same => atEnd same rfl
        | cons other others => exact fun same => notEscape other others same rfl
      obtain ⟨piece, rfl, quoted⟩ := ih scanned
      exact ⟨_, rfl, quoted.push notQuote plain printable⟩

end Gleaner.Json
