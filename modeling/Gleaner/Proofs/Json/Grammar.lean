import Gleaner.Proofs.Json.Texts
import Gleaner.Proofs.Json.Words

/-!
# The grammar of values

Which pieces of text spell which value, as a grammar on its own. The reader accepts exactly
these pieces: it reads what the grammar spells with any fuel that covers the length, and
whatever it reads is spelled by the piece that it took.
-/

set_option autoImplicit false

namespace Gleaner.Json

def Gap (piece : List Char) : Prop :=
  ∀ c ∈ piece, isGap c = true

/-- What a piece can spell: a value, the inside of a list or of an object, or one field. -/
inductive Sense where
  | value (value : Json)
  | items (items : List Json)
  | fields (fields : List (String × Json))
  | field (key : String) (value : Json)

/-- The grammar. The inside of a list or of an object begins at its first member. -/
inductive Spells : List Char → Sense → Prop where
  | text {piece : List Char} {text : String} (quoted : Quoted ⟨[], none⟩ piece text) :
      Spells ('"' :: piece) (.value (.str text))
  | word {piece : List Char} {value : Json} (word : Word piece value) :
      Spells piece (.value value)
  | emptyList {gap : List Char} (isGap : Gap gap) :
      Spells ('[' :: (gap ++ [']'])) (.value (.arr []))
  | list {gap inner : List Char} {items : List Json} (isGap : Gap gap)
      (spelled : Spells inner (.items items)) :
      Spells ('[' :: (gap ++ inner ++ [']'])) (.value (.arr items))
  | emptyObject {gap : List Char} (isGap : Gap gap) :
      Spells ('\x7b' :: gap ++ ['\x7d']) (.value (.obj []))
  | object {gap inner : List Char} {fields : List (String × Json)} (isGap : Gap gap)
      (spelled : Spells inner (.fields fields)) :
      Spells ('\x7b' :: (gap ++ inner) ++ ['\x7d']) (.value (.obj (Entries.ofPairs fields)))
  | lastItem {piece gap : List Char} {value : Json} (spelled : Spells piece (.value value))
      (isGap : Gap gap) : Spells (piece ++ gap) (.items [value])
  | moreItems {piece gap gapThen rest : List Char} {value : Json} {items : List Json}
      (spelled : Spells piece (.value value)) (isGap : Gap gap) (isGapThen : Gap gapThen)
      (others : Spells rest (.items items)) :
      Spells (piece ++ (gap ++ ',' :: (gapThen ++ rest))) (.items (value :: items))
  | field {keyPiece gap gapThen piece : List Char} {key : String} {value : Json}
      (quoted : Quoted ⟨[], none⟩ keyPiece key) (isGap : Gap gap) (isGapThen : Gap gapThen)
      (spelled : Spells piece (.value value)) :
      Spells ('"' :: keyPiece ++ (gap ++ ':' :: (gapThen ++ piece))) (.field key value)
  | lastField {piece gap : List Char} {key : String} {value : Json}
      (spelled : Spells piece (.field key value)) (isGap : Gap gap) :
      Spells (piece ++ gap) (.fields [(key, value)])
  | moreFields {piece gap gapThen rest : List Char} {key : String} {value : Json}
      {fields : List (String × Json)} (spelled : Spells piece (.field key value))
      (isGap : Gap gap) (isGapThen : Gap gapThen) (others : Spells rest (.fields fields)) :
      Spells (piece ++ (gap ++ ',' :: (gapThen ++ rest))) (.fields ((key, value) :: fields))

/-!
## Blanks
-/

theorem Gap.level {piece : List Char} (gap : Gap piece) : Level piece := by
  refine .ofPlain fun c found => ?_
  have blank := gap c found
  refine ⟨?_, ?_, ?_⟩
  all_goals
    rintro rfl
    cases blank

theorem skipGap_append {gap tail : List Char} (isGap : Gap gap)
    (stops : ∀ c ∈ tail.head?, Json.isGap c = false) : skipGap (gap ++ tail) = tail := by
  rw [skipGap, List.dropWhile_append_of_pos isGap]
  cases tail with
  | nil => rfl
  | cons c rest => rw [List.dropWhile_cons, stops c rfl]; rfl

theorem skipGap_piece (cs : List Char) :
    ∃ gap, cs = gap ++ skipGap cs ∧ Gap gap :=
  ⟨cs.takeWhile isGap, List.takeWhile_append_dropWhile.symm,
    fun _ found => List.all_eq_true.mp List.all_takeWhile _ found⟩

theorem Delimited.gap {gap tail : List Char} (isGap : Gap gap) (delimited : Delimited tail) :
    Delimited (gap ++ tail) :=
  head?_append (fun c found => .inl (isGap c (List.mem_of_mem_head? found))) delimited

/-!
## Pieces and the matcher
-/

/-- Brackets, commas and colons do not open or close anything. -/
theorem Level.mark {c : Char} {piece : List Char} (level : Level piece)
    (mark : c = '[' ∨ c = ']' ∨ c = ',' ∨ c = ':') : Level (c :: piece) := by
  refine .cons ?_ level
  rcases mark with rfl | rfl | rfl | rfl
  all_goals exact .plain (by decide) (by decide) (by decide)

theorem Quoted.level {piece : List Char} {text : String} (quoted : Quoted ⟨[], none⟩ piece text) :
    Level ('"' :: piece) :=
  fun depth => Walks.quote.cons (quoted.walks (depth + 1))

theorem Spells.level {piece : List Char} {sense : Sense} (spells : Spells piece sense) :
    Level piece := by
  induction spells with
  | text quoted => exact quoted.level
  | word word =>
      exact .ofPlain fun c found =>
        ⟨(word.plain c found).1, (word.plain c found).2.1, (word.plain c found).2.2.1⟩
  | emptyList isGap =>
      exact (isGap.level.append (Level.nil.mark (.inr (.inl rfl)))).mark (.inl rfl)
  | list isGap _ inner =>
      have closed := (isGap.level.append inner).append (Level.nil.mark (.inr (.inl rfl)))
      exact closed.mark (.inl rfl)
  | emptyObject isGap => exact .braces isGap.level
  | object isGap _ inner => exact .braces (isGap.level.append inner)
  | lastItem _ isGap item => exact item.append isGap.level
  | moreItems _ isGap isGapThen _ item others =>
      have rest := (isGapThen.level.append others).mark (.inr (.inr (.inl rfl)))
      exact item.append (isGap.level.append rest)
  | field quoted isGap isGapThen _ value =>
      have rest := (isGapThen.level.append value).mark (.inr (.inr (.inr rfl)))
      exact quoted.level.append (isGap.level.append rest)
  | lastField _ isGap field => exact field.append isGap.level
  | moreFields _ isGap isGapThen _ field others =>
      have rest := (isGapThen.level.append others).mark (.inr (.inr (.inl rfl)))
      exact field.append (isGap.level.append rest)

/-!
## The reader takes what the grammar spells
-/

theorem Spells.begins {piece : List Char} {value : Json} (spells : Spells piece (.value value)) :
    ∃ c rest, piece = c :: rest ∧ Json.isGap c = false ∧ c ≠ ']' := by
  cases spells with
  | word word =>
      cases piece with
      | nil => exact absurd rfl word.ne_nil
      | cons c rest =>
          have plain := word.plain c List.mem_cons_self
          exact ⟨c, rest, rfl, plain.2.2.2.2.2, plain.2.2.2.2.1⟩
  | _ => exact ⟨_, _, rfl, by decide, by decide⟩

theorem Word.scanValue {piece tail : List Char} {value : Json} (word : Word piece value)
    (delimited : Delimited tail) (fuel : Nat) :
    scanValue (fuel + 1) (piece ++ tail) = .ok (value, tail) := by
  have scans := word.scans tail delimited
  cases piece with
  | nil => exact absurd rfl word.ne_nil
  | cons c rest =>
      obtain ⟨notQuote, notOpen, _, notList, _, _⟩ := word.plain c List.mem_cons_self
      rw [List.cons_append] at scans ⊢
      rw [Json.scanValue]
      · exact scans
      all_goals
        intro other same
        first
          | exact notQuote (List.cons_eq_cons.mp same).1
          | exact notList (List.cons_eq_cons.mp same).1
          | exact notOpen (List.cons_eq_cons.mp same).1

/-- How the reader answers for a piece, whatever follows it. -/
def Sense.Read (piece : List Char) : Sense → Prop
  | .value read => ∀ fuel tail, piece.length ≤ fuel → Delimited tail →
      scanValue fuel (piece ++ tail) = .ok (read, tail)
  | .items read => ∀ fuel tail, piece.length < fuel →
      scanItems fuel (piece ++ ']' :: tail) = .ok (read, tail)
  | .fields read => ∀ fuel tail, piece.length < fuel →
      scanFields fuel (piece ++ '\x7d' :: tail) = .ok (read, tail)
  | .field key read => ∀ fuel gap tail, piece.length ≤ fuel → Gap gap →
      scanFields (fuel + 1) (piece ++ (gap ++ '\x7d' :: tail)) = .ok ([(key, read)], tail) ∧
      ∀ others rest, scanFields fuel (skipGap tail) = .ok (others, rest) →
        scanFields (fuel + 1) (piece ++ (gap ++ ',' :: tail)) = .ok ((key, read) :: others, rest)

theorem Delimited.cons {c : Char} {rest : List Char} (mark : c = ',' ∨ c = ']' ∨ c = '\x7d') :
    Delimited (c :: rest) := by
  intro other found
  cases found
  exact .inr mark

theorem skipGap_mark {gap rest : List Char} {c : Char} (isGap : Gap gap)
    (mark : Json.isGap c = false) : skipGap (gap ++ c :: rest) = c :: rest := by
  refine skipGap_append isGap fun other found => ?_
  cases found
  exact mark

section Items

variable {piece gap : List Char} {value : Json} {fuel : Nat}
  (read : ∀ tail, Delimited tail → scanValue fuel (piece ++ tail) = .ok (value, tail))
  (isGap : Gap gap) (tail : List Char)

include read isGap

theorem scanItems_last :
    scanItems (fuel + 1) (piece ++ (gap ++ ']' :: tail)) = .ok ([value], tail) := by
  have scanned := read (gap ++ ']' :: tail) (.gap isGap (.cons (.inr (.inl rfl))))
  have skipped : skipGap (gap ++ ']' :: tail) = ']' :: tail := skipGap_mark isGap rfl
  rw [scanItems, scanned]
  simp only [bind, Except.bind]
  rw [skipped]
  rfl

theorem scanItems_more {items : List Json} {rest : List Char}
    (others : scanItems fuel (skipGap tail) = .ok (items, rest)) :
    scanItems (fuel + 1) (piece ++ (gap ++ ',' :: tail)) = .ok (value :: items, rest) := by
  have scanned := read (gap ++ ',' :: tail) (.gap isGap (.cons (.inl rfl)))
  have skipped : skipGap (gap ++ ',' :: tail) = ',' :: tail := skipGap_mark isGap rfl
  rw [scanItems, scanned]
  simp only [bind, Except.bind]
  rw [skipped]
  simp only [others]
  rfl

end Items

/-- A list begins with its first item, and an object with the quote of its first key. -/
theorem Spells.items_begin {inner : List Char} {items : List Json}
    (spells : Spells inner (.items items)) :
    ∃ c rest, inner = c :: rest ∧ Json.isGap c = false ∧ c ≠ ']' := by
  cases spells with
  | lastItem spelled isGap =>
      obtain ⟨c, rest, rfl, begins⟩ := spelled.begins
      exact ⟨c, _, rfl, begins⟩
  | moreItems spelled =>
      obtain ⟨c, rest, rfl, begins⟩ := spelled.begins
      exact ⟨c, _, rfl, begins⟩

theorem Spells.fields_begin {inner : List Char} {fields : List (String × Json)}
    (spells : Spells inner (.fields fields)) : ∃ rest, inner = '"' :: rest := by
  cases spells with
  | lastField spelled isGap =>
      cases spelled
      exact ⟨_, rfl⟩
  | moreFields spelled =>
      cases spelled
      exact ⟨_, rfl⟩

section Containers

variable {inner gap tail : List Char} {fuel : Nat} (isGap : Gap gap)

include isGap

theorem scanValue_list {items : List Json} (begins : ∃ c rest, inner = c :: rest ∧
      Json.isGap c = false ∧ c ≠ ']')
    (scanned : scanItems fuel (inner ++ ']' :: tail) = .ok (items, tail)) :
    scanValue (fuel + 1) ('[' :: (gap ++ (inner ++ ']' :: tail))) = .ok (.arr items, tail) := by
  obtain ⟨c, rest, rfl, notGap, notClose⟩ := begins
  have skipped : skipGap (gap ++ (c :: rest ++ ']' :: tail)) = c :: (rest ++ ']' :: tail) :=
    skipGap_mark isGap notGap
  rw [Json.scanValue, skipped]
  split
  next same => exact absurd (List.cons_eq_cons.mp same).1 notClose
  next =>
    rw [List.cons_append] at scanned
    rw [scanned]
    rfl

theorem scanValue_object {fields : List (String × Json)} (begins : ∃ rest, inner = '"' :: rest)
    (scanned : scanFields fuel (inner ++ '\x7d' :: tail) = .ok (fields, tail)) :
    scanValue (fuel + 1) ('\x7b' :: (gap ++ (inner ++ '\x7d' :: tail))) =
      .ok (.obj (Entries.ofPairs fields), tail) := by
  obtain ⟨rest, rfl⟩ := begins
  have skipped : skipGap (gap ++ ('"' :: rest ++ '\x7d' :: tail)) =
      '"' :: (rest ++ '\x7d' :: tail) := skipGap_mark isGap rfl
  rw [Json.scanValue, skipped]
  rw [List.cons_append] at scanned
  split
  next same => cases same
  next =>
    rw [scanned]
    rfl

end Containers

section Fields

variable {keyPiece gap gapThen piece : List Char} {key : String} {value : Json} {fuel : Nat}
  (quoted : Quoted ⟨[], none⟩ keyPiece key) (isGap : Gap gap) (isGapThen : Gap gapThen)
  (notGap : ∃ c rest, piece = c :: rest ∧ Json.isGap c = false)
  (read : ∀ tail, Delimited tail → scanValue fuel (piece ++ tail) = .ok (value, tail))

include quoted isGap isGapThen notGap read

/-- What is read of a field before what follows its value. -/
theorem field_read {tail : List Char} (delimited : Delimited tail) (opening : Nat) :
    ∃ afterKey, scanText opening ⟨[], none⟩ (keyPiece ++ (gap ++ ':' :: (gapThen ++ piece)) ++ tail) =
        .ok (key, afterKey) ∧
      skipGap afterKey = ':' :: (gapThen ++ (piece ++ tail)) ∧
      scanValue fuel (skipGap (gapThen ++ (piece ++ tail))) = .ok (value, tail) := by
  obtain ⟨c, rest, rfl, notGap⟩ := notGap
  refine ⟨gap ++ ':' :: (gapThen ++ (c :: rest ++ tail)), ?_, skipGap_mark isGap rfl, ?_⟩
  · rw [List.append_assoc, quoted.scans]
    simp
  · rw [List.cons_append, skipGap_mark isGapThen notGap]
    exact read tail delimited

theorem scanFields_last {gapLast : List Char} (isGapLast : Gap gapLast) (tail : List Char) :
    scanFields (fuel + 1) ('"' :: keyPiece ++ (gap ++ ':' :: (gapThen ++ piece)) ++
      (gapLast ++ '\x7d' :: tail)) = .ok ([(key, value)], tail) := by
  have delimited : Delimited (gapLast ++ '\x7d' :: tail) :=
    .gap isGapLast (.cons (.inr (.inr rfl)))
  have skipped : skipGap (gapLast ++ '\x7d' :: tail) = '\x7d' :: tail :=
    skipGap_mark isGapLast rfl
  rw [List.cons_append, List.cons_append, scanFields]
  obtain ⟨afterKey, keyed, colon, valued⟩ := field_read quoted isGap isGapThen notGap read delimited
    ('"' :: (keyPiece ++ (gap ++ ':' :: (gapThen ++ piece)) ++
      (gapLast ++ '\x7d' :: tail))).length
  simp only [keyed, bind, Except.bind, colon, valued, skipped]
  rfl

theorem scanFields_more {gapLast : List Char} (isGapLast : Gap gapLast) (tail : List Char)
    {fields : List (String × Json)} {rest : List Char}
    (others : scanFields fuel (skipGap tail) = .ok (fields, rest)) :
    scanFields (fuel + 1) ('"' :: keyPiece ++ (gap ++ ':' :: (gapThen ++ piece)) ++
      (gapLast ++ ',' :: tail)) = .ok ((key, value) :: fields, rest) := by
  have delimited : Delimited (gapLast ++ ',' :: tail) := .gap isGapLast (.cons (.inl rfl))
  have skipped : skipGap (gapLast ++ ',' :: tail) = ',' :: tail := skipGap_mark isGapLast rfl
  rw [List.cons_append, List.cons_append, scanFields]
  obtain ⟨afterKey, keyed, colon, valued⟩ := field_read quoted isGap isGapThen notGap read delimited
    ('"' :: (keyPiece ++ (gap ++ ':' :: (gapThen ++ piece)) ++ (gapLast ++ ',' :: tail))).length
  simp only [keyed, bind, Except.bind, colon, valued, skipped, others]
  rfl

end Fields

/-- Whatever the grammar spells, the reader reads. -/
theorem Spells.read {piece : List Char} {sense : Sense} (spells : Spells piece sense) :
    sense.Read piece := by
  induction spells with
  | text quoted =>
      intro fuel tail enough _
      obtain ⟨left, rfl⟩ : ∃ left, fuel = left + 1 := ⟨fuel - 1, by simp at enough; omega⟩
      rw [List.cons_append, scanValue, quoted.scans]
      rfl
  | word word =>
      intro fuel tail enough delimited
      have some := List.length_pos_iff.mpr word.ne_nil
      obtain ⟨left, rfl⟩ : ∃ left, fuel = left + 1 := ⟨fuel - 1, by omega⟩
      exact word.scanValue delimited left
  | emptyList isGap =>
      intro fuel tail enough _
      obtain ⟨left, rfl⟩ : ∃ left, fuel = left + 1 := ⟨fuel - 1, by simp at enough; omega⟩
      have skipped : skipGap (_ ++ ']' :: tail) = ']' :: tail := skipGap_mark isGap rfl
      simp only [List.cons_append, List.append_assoc, List.nil_append]
      rw [scanValue, skipped]
      rfl
  | list isGap spelled inner =>
      intro fuel tail enough _
      simp only [List.length_cons, List.length_append] at enough
      obtain ⟨left, rfl⟩ : ∃ left, fuel = left + 1 := ⟨fuel - 1, by omega⟩
      simp only [List.cons_append, List.append_assoc, List.nil_append]
      exact scanValue_list isGap spelled.items_begin (inner left tail (by simp at enough; omega))
  | emptyObject isGap =>
      intro fuel tail enough _
      obtain ⟨left, rfl⟩ : ∃ left, fuel = left + 1 := ⟨fuel - 1, by simp at enough; omega⟩
      have skipped : skipGap (_ ++ '\x7d' :: tail) = '\x7d' :: tail := skipGap_mark isGap rfl
      simp only [List.cons_append, List.append_assoc, List.nil_append]
      rw [scanValue, skipped]
      rfl
  | object isGap spelled inner =>
      intro fuel tail enough _
      simp only [List.length_cons, List.length_append] at enough
      obtain ⟨left, rfl⟩ : ∃ left, fuel = left + 1 := ⟨fuel - 1, by omega⟩
      simp only [List.cons_append, List.append_assoc, List.nil_append]
      exact scanValue_object isGap spelled.fields_begin (inner left tail (by simp at enough; omega))
  | lastItem spelled isGap value =>
      intro fuel tail enough
      rw [List.length_append] at enough
      obtain ⟨left, rfl⟩ : ∃ left, fuel = left + 1 := ⟨fuel - 1, by omega⟩
      rw [List.append_assoc]
      exact scanItems_last (fun tail => value left tail (by omega)) isGap tail
  | moreItems spelled isGap isGapThen spelledRest value others =>
      intro fuel tail enough
      simp only [List.length_append, List.length_cons] at enough
      obtain ⟨left, rfl⟩ : ∃ left, fuel = left + 1 := ⟨fuel - 1, by omega⟩
      simp only [List.append_assoc, List.cons_append]
      refine scanItems_more (fun tail => value left tail (by omega)) isGap _ ?_
      obtain ⟨c, more, rfl, notGap, _⟩ := spelledRest.items_begin
      rw [List.cons_append, skipGap_mark isGapThen notGap]
      exact others left tail (by omega)
  | field quoted isGap isGapThen spelled value =>
      intro fuel gapLast tail enough isGapLast
      simp only [List.length_append, List.length_cons] at enough
      obtain ⟨c, more, begins, notGap, _⟩ := spelled.begins
      have read (tail : List Char) := value fuel tail (by omega)
      constructor
      · exact scanFields_last quoted isGap isGapThen ⟨c, more, begins, notGap⟩ read isGapLast tail
      · intro others rest scanned
        exact scanFields_more quoted isGap isGapThen ⟨c, more, begins, notGap⟩ read isGapLast tail
          scanned
  | lastField spelled isGap field =>
      intro fuel tail enough
      rw [List.length_append] at enough
      obtain ⟨left, rfl⟩ : ∃ left, fuel = left + 1 := ⟨fuel - 1, by omega⟩
      rw [List.append_assoc]
      exact (field left _ tail (by omega) isGap).1
  | moreFields spelled isGap isGapThen spelledRest field others =>
      intro fuel tail enough
      simp only [List.length_append, List.length_cons] at enough
      obtain ⟨left, rfl⟩ : ∃ left, fuel = left + 1 := ⟨fuel - 1, by omega⟩
      simp only [List.append_assoc, List.cons_append]
      refine (field left _ _ (by omega) isGap).2 _ _ ?_
      obtain ⟨more, rfl⟩ := spelledRest.fields_begin
      rw [List.cons_append, skipGap_mark isGapThen (by rfl)]
      exact others left tail (by omega)

/-!
## The grammar spells what the reader takes
-/

theorem bind_ok {ε α β : Type} {first : Except ε α} {next : α → Except ε β} {result : β}
    (ran : (first >>= next) = .ok result) : ∃ value, first = .ok value ∧ next value = .ok result := by
  cases first with
  | error fault => cases ran
  | ok value => exact ⟨value, rfl, ran⟩

theorem spells_of_scanValue_succ {fuel : Nat}
    (items : ∀ {cs rest : List Char} {items : List Json}, scanItems fuel cs = .ok (items, rest) →
      ∃ inner, cs = inner ++ ']' :: rest ∧ Spells inner (.items items))
    (fields : ∀ {cs rest : List Char} {fields : List (String × Json)},
      scanFields fuel cs = .ok (fields, rest) →
        ∃ inner, cs = inner ++ '\x7d' :: rest ∧ Spells inner (.fields fields))
    {cs rest : List Char} {value : Json} (scanned : scanValue (fuel + 1) cs = .ok (value, rest)) :
    ∃ piece, cs = piece ++ rest ∧ Spells piece (.value value) := by
  rw [scanValue.eq_def] at scanned
  dsimp only at scanned
  split at scanned
  next after =>
    obtain ⟨⟨text, left⟩, texted, same⟩ := bind_ok scanned
    cases same
    obtain ⟨piece, rfl, quoted⟩ := quoted_of_scanText texted
    exact ⟨'"' :: piece, rfl, .text quoted⟩
  next after =>
    obtain ⟨gap, split, isGap⟩ := skipGap_piece after
    split at scanned
    next left same =>
      cases scanned
      refine ⟨'[' :: (gap ++ [']']), ?_, .emptyList isGap⟩
      rw [split, same]
      simp
    next =>
      obtain ⟨⟨found, left⟩, itemed, same⟩ := bind_ok scanned
      cases same
      obtain ⟨inner, inside, spelled⟩ := items itemed
      refine ⟨'[' :: (gap ++ inner ++ [']']), ?_, .list isGap spelled⟩
      rw [split, inside]
      simp
  next after =>
    obtain ⟨gap, split, isGap⟩ := skipGap_piece after
    split at scanned
    next left same =>
      cases scanned
      refine ⟨'\x7b' :: gap ++ ['\x7d'], ?_, .emptyObject isGap⟩
      rw [split, same]
      simp
    next =>
      obtain ⟨⟨found, left⟩, fielded, same⟩ := bind_ok scanned
      cases same
      obtain ⟨inner, inside, spelled⟩ := fields fielded
      refine ⟨'\x7b' :: (gap ++ inner) ++ ['\x7d'], ?_, .object isGap spelled⟩
      rw [split, inside]
      simp
  next =>
    obtain ⟨piece, rfl, word⟩ := word_of_scanWord scanned
    exact ⟨piece, rfl, .word word⟩

theorem spells_of_scanItems_succ {fuel : Nat}
    (values : ∀ {cs rest : List Char} {value : Json}, scanValue fuel cs = .ok (value, rest) →
      ∃ piece, cs = piece ++ rest ∧ Spells piece (.value value))
    (others : ∀ {cs rest : List Char} {items : List Json},
      scanItems fuel cs = .ok (items, rest) →
        ∃ inner, cs = inner ++ ']' :: rest ∧ Spells inner (.items items))
    {cs rest : List Char} {items : List Json}
    (scanned : scanItems (fuel + 1) cs = .ok (items, rest)) :
    ∃ inner, cs = inner ++ ']' :: rest ∧ Spells inner (.items items) := by
  rw [scanItems] at scanned
  obtain ⟨⟨value, left⟩, valued, follows⟩ := bind_ok scanned
  obtain ⟨piece, rfl, spelled⟩ := values valued
  obtain ⟨gap, split, isGap⟩ := skipGap_piece left
  dsimp only at follows
  split at follows
  next left same =>
    cases follows
    refine ⟨piece ++ gap, ?_, .lastItem spelled isGap⟩
    rw [split, same, List.append_assoc]
  next left same =>
    obtain ⟨⟨found, after⟩, itemed, ends⟩ := bind_ok follows
    cases ends
    obtain ⟨gapThen, splitThen, isGapThen⟩ := skipGap_piece left
    obtain ⟨inner, inside, spelledRest⟩ := others itemed
    refine ⟨_, ?_, .moreItems spelled isGap isGapThen spelledRest⟩
    rw [split, same, splitThen, inside]
    simp
  next => cases follows

theorem spells_of_scanFields_succ {fuel : Nat}
    (values : ∀ {cs rest : List Char} {value : Json}, scanValue fuel cs = .ok (value, rest) →
      ∃ piece, cs = piece ++ rest ∧ Spells piece (.value value))
    (others : ∀ {cs rest : List Char} {fields : List (String × Json)},
      scanFields fuel cs = .ok (fields, rest) →
        ∃ inner, cs = inner ++ '\x7d' :: rest ∧ Spells inner (.fields fields))
    {cs rest : List Char} {fields : List (String × Json)}
    (scanned : scanFields (fuel + 1) cs = .ok (fields, rest)) :
    ∃ inner, cs = inner ++ '\x7d' :: rest ∧ Spells inner (.fields fields) := by
  rw [scanFields.eq_def] at scanned
  dsimp only at scanned
  split at scanned
  next afterQuote =>
    obtain ⟨⟨key, afterKey⟩, keyed, coloned⟩ := bind_ok scanned
    obtain ⟨keyPiece, rfl, quoted⟩ := quoted_of_scanText keyed
    obtain ⟨gap, split, isGap⟩ := skipGap_piece afterKey
    dsimp only at coloned
    split at coloned
    next afterColon colon =>
      obtain ⟨⟨value, left⟩, valued, follows⟩ := bind_ok coloned
      obtain ⟨gapThen, splitThen, isGapThen⟩ := skipGap_piece afterColon
      obtain ⟨piece, inside, spelled⟩ := values valued
      obtain ⟨gapLast, splitLast, isGapLast⟩ := skipGap_piece left
      have field := Spells.field quoted isGap isGapThen spelled
      rw [split, colon, splitThen, inside]
      dsimp only at follows
      split at follows
      next left same =>
        cases follows
        refine ⟨_, ?_, .lastField field isGapLast⟩
        rw [splitLast, same]
        simp
      next left same =>
        obtain ⟨⟨found, after⟩, fielded, ends⟩ := bind_ok follows
        cases ends
        obtain ⟨gapMore, splitMore, isGapMore⟩ := skipGap_piece left
        obtain ⟨inner, insideMore, spelledRest⟩ := others fielded
        refine ⟨_, ?_, .moreFields field isGapLast isGapMore spelledRest⟩
        rw [splitLast, same, splitMore, insideMore]
        simp
      next => cases follows
    next => cases coloned
  next => cases scanned

/-- Whatever the reader takes for a value is spelled by the piece that it took, with any fuel. -/
theorem spells_of_scan (fuel : Nat) :
    (∀ {cs rest : List Char} {value : Json}, scanValue fuel cs = .ok (value, rest) →
      ∃ piece, cs = piece ++ rest ∧ Spells piece (.value value)) ∧
    (∀ {cs rest : List Char} {items : List Json}, scanItems fuel cs = .ok (items, rest) →
      ∃ inner, cs = inner ++ ']' :: rest ∧ Spells inner (.items items)) ∧
    ∀ {cs rest : List Char} {fields : List (String × Json)},
      scanFields fuel cs = .ok (fields, rest) →
        ∃ inner, cs = inner ++ '\x7d' :: rest ∧ Spells inner (.fields fields) := by
  induction fuel with
  | zero =>
      refine ⟨fun scanned => ?_, fun scanned => ?_, fun scanned => ?_⟩
      · cases scanned
      · cases scanned
      · cases scanned
  | succ fuel ih =>
      obtain ⟨values, items, fields⟩ := ih
      exact ⟨spells_of_scanValue_succ items fields, spells_of_scanItems_succ values items,
        spells_of_scanFields_succ values fields⟩

end Gleaner.Json
