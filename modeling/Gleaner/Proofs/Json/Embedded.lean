import Gleaner.Proofs.Json.Written

/-!
# The first object of a text

The brace matcher stops exactly where an object ends, so that trying each opening brace in turn
finds the first place at which an object starts.
-/

set_option autoImplicit false

namespace Gleaner.Json

theorem Spells.braces {piece : List Char} {fields : Fields}
    (spells : Spells piece (.value (.obj fields))) (begins : piece.head? = some '\x7b') :
    ∃ inner, piece = '\x7b' :: inner ++ ['\x7d'] ∧ Level inner := by
  cases spells with
  | word word =>
      have plain := word.plain '\x7b' (List.mem_of_mem_head? begins)
      exact absurd rfl plain.2.1
  | emptyObject isGap => exact ⟨_, rfl, isGap.level⟩
  | object isGap spelled => exact ⟨_, rfl, isGap.level.append spelled.level⟩

/-- A whole text that begins with a brace is an object exactly when the grammar spells one, with
nothing but blanks after it. -/
theorem scanAll_object_iff {cs : List Char} {fields : Fields} (begins : cs.head? = some '\x7b') :
    scanAll cs = .ok (.obj fields) ↔
      ∃ piece gap, cs = piece ++ gap ∧ Gap gap ∧ Spells piece (.value (.obj fields)) := by
  have whole : skipGap cs = cs := by
    refine skipGap_append (List.forall_mem_nil _) fun c found => ?_
    rw [begins] at found
    cases found
    rfl
  unfold scanAll
  split
  next => cases begins
  next =>
    rw [whole]
    constructor
    · intro scanned
      obtain ⟨⟨value, left⟩, valued, ends⟩ := bind_ok scanned
      obtain ⟨piece, split, spelled⟩ := (spells_of_scan _).1 valued
      obtain ⟨gap, splitGap, isGap⟩ := skipGap_piece left
      dsimp only at ends
      split at ends
      next nothing =>
        cases ends
        rw [nothing, List.append_nil] at splitGap
        exact ⟨piece, left, split, splitGap ▸ isGap, spelled⟩
      next => cases ends
    · rintro ⟨piece, gap, rfl, isGap, spelled⟩
      have delimited : Delimited gap :=
        fun c found => .inl (isGap c (List.mem_of_mem_head? found))
      have enough : piece.length ≤ (piece ++ gap).length + 1 := by
        rw [List.length_append]
        omega
      have nothing : skipGap gap = [] := by
        have skipped : skipGap (gap ++ []) = [] := skipGap_append isGap (by simp)
        rwa [List.append_nil] at skipped
      rw [spelled.read _ gap enough delimited]
      simp only [bind, Except.bind, nothing]
      rfl

/-!
## The object at a brace
-/

theorem prefix_of_balanced? {state : Balance} {cs inner : List Char}
    (found : balanced? state cs = some inner) : inner <+: cs := by
  induction cs generalizing state inner with
  | nil => cases found
  | cons c rest ih =>
      have further {next : Balance} (walked : (balanced? next rest).map (c :: ·) = some inner) :
          inner <+: c :: rest := by
        obtain ⟨taken, took, rfl⟩ := Option.map_eq_some_iff.mp walked
        exact List.cons_prefix_cons.mpr ⟨rfl, ih took⟩
      unfold balanced? at found
      dsimp only at found
      repeat' split at found
      all_goals first
        | exact further found
        | skip
      cases found
      exact ⟨rest, rfl⟩

/-- From a brace on, the matcher and the reader find the object that starts there, if any prefix
reads as one. -/
theorem objectAt?_eq_some_iff {cs : List Char} {fields : Fields}
    (begins : cs.head? = some '\x7b') :
    objectAt? cs = some fields ↔ ∃ size, scanAll (cs.take size) = .ok (.obj fields) := by
  constructor
  · intro found
    unfold objectAt? at found
    split at found
    next inner balances =>
      split at found
      next scanned =>
        cases found
        refine ⟨inner.length, ?_⟩
        rw [← List.prefix_iff_eq_take.mp (prefix_of_balanced? balances)]
        exact scanned
      next => cases found
    next => cases found
  · rintro ⟨size, scanned⟩
    have starts : (cs.take size).head? = some '\x7b' := by
      cases size with
      | zero => cases scanned
      | succ size =>
          cases cs with
          | nil => cases begins
          | cons c rest => exact begins
    obtain ⟨piece, gap, split, isGap, spelled⟩ := (scanAll_object_iff starts).mp scanned
    have brace : piece.head? = some '\x7b' := by
      obtain ⟨c, rest, rfl, _⟩ := spelled.begins
      rw [split] at starts
      exact starts
    have object : scanAll piece = .ok (.obj fields) :=
      (scanAll_object_iff brace).mpr
        ⟨piece, [], (List.append_nil piece).symm, List.forall_mem_nil _, spelled⟩
    obtain ⟨inner, rfl, level⟩ := spelled.braces brace
    have whole : cs = '\x7b' :: inner ++ ['\x7d'] ++ (gap ++ cs.drop size) := by
      rw [← List.append_assoc, ← split]
      exact (List.take_append_drop size cs).symm
    have balances : balanced? ⟨0, false, false⟩ cs = some ('\x7b' :: inner ++ ['\x7d']) := by
      rw [whole]
      exact balanced?_braces level _
    unfold objectAt?
    rw [balances]
    dsimp only
    rw [object]

/-!
## The first one
-/

/-- An object starts at a place of the text, which has a brace there: the characters from it up to
some other place read as the object. -/
def ObjectAt (cs : List Char) (place : Nat) (fields : Fields) : Prop :=
  cs[place]? = some '\x7b' ∧
    ∃ stop, place < stop ∧ stop ≤ cs.length ∧
      scanAll ((cs.take stop).drop place) = .ok (.obj fields)

theorem objectAt_zero {c : Char} {rest : List Char} {fields : Fields} :
    ObjectAt (c :: rest) 0 fields ↔ c = '\x7b' ∧ objectAt? (c :: rest) = some fields := by
  constructor
  · rintro ⟨brace, stop, _, _, scanned⟩
    have same : c = '\x7b' := by simpa using brace
    subst same
    exact ⟨rfl, (objectAt?_eq_some_iff rfl).mpr ⟨stop, scanned⟩⟩
  · rintro ⟨rfl, found⟩
    obtain ⟨size, scanned⟩ := (objectAt?_eq_some_iff rfl).mp found
    refine ⟨rfl, min size (rest.length + 1), ?_, Nat.min_le_right _ _, ?_⟩
    · cases size with
      | zero => cases scanned
      | succ size => omega
    · rw [List.drop_zero]
      have taken : ('\x7b' :: rest).take (min size (rest.length + 1)) =
          ('\x7b' :: rest).take size := by
        rw [← List.length_cons, ← List.take_take, List.take_length]
      rw [taken]
      exact scanned

theorem objectAt_succ {c : Char} {rest : List Char} {place : Nat} {fields : Fields} :
    ObjectAt (c :: rest) (place + 1) fields ↔ ObjectAt rest place fields := by
  constructor
  · rintro ⟨brace, stop, after, within, scanned⟩
    obtain ⟨stop, rfl⟩ : ∃ before, stop = before + 1 := ⟨stop - 1, by omega⟩
    exact ⟨brace, stop, by omega, Nat.le_of_succ_le_succ within, scanned⟩
  · rintro ⟨brace, stop, after, within, scanned⟩
    exact ⟨brace, stop + 1, by omega, Nat.succ_le_succ within, scanned⟩

theorem firstObjectIn?_cons (c : Char) (rest : List Char) :
    (∃ object, ObjectAt (c :: rest) 0 object ∧ firstObjectIn? (c :: rest) = some object) ∨
      (∀ object, ¬ObjectAt (c :: rest) 0 object) ∧
        firstObjectIn? (c :: rest) = firstObjectIn? rest := by
  rw [firstObjectIn?]
  by_cases brace : c = '\x7b'
  · rw [if_pos brace]
    cases found : objectAt? (c :: rest) with
    | some object => exact .inl ⟨object, objectAt_zero.mpr ⟨brace, found⟩, rfl⟩
    | none =>
        refine .inr ⟨fun object starts => ?_, rfl⟩
        have same := (objectAt_zero.mp starts).2
        rw [found] at same
        cases same
  · rw [if_neg brace]
    exact .inr ⟨fun object starts => brace (objectAt_zero.mp starts).1, rfl⟩

theorem firstObjectIn?_eq_some_iff {cs : List Char} {fields : Fields} :
    firstObjectIn? cs = some fields ↔
      ∃ place, ObjectAt cs place fields ∧
        ∀ earlier < place, ∀ other, ¬ObjectAt cs earlier other := by
  induction cs with
  | nil =>
      constructor
      · intro found
        cases found
      · rintro ⟨place, ⟨brace, _⟩, _⟩
        cases brace
  | cons c rest ih =>
      rcases firstObjectIn?_cons c rest with ⟨object, starts, found⟩ | ⟨none, further⟩
      · rw [found]
        constructor
        · intro same
          cases same
          exact ⟨0, starts, fun earlier before => absurd before (Nat.not_lt_zero earlier)⟩
        · rintro ⟨place, startsThere, first⟩
          cases place with
          | zero =>
              have one := (objectAt_zero.mp starts).2
              rw [(objectAt_zero.mp startsThere).2] at one
              exact one.symm
          | succ place => exact absurd starts (first 0 (Nat.succ_pos place) object)
      · rw [further, ih]
        constructor
        · rintro ⟨place, starts, first⟩
          refine ⟨place + 1, objectAt_succ.mpr starts, fun earlier before other => ?_⟩
          cases earlier with
          | zero => exact none other
          | succ earlier =>
              rw [objectAt_succ]
              exact first earlier (Nat.lt_of_succ_lt_succ before) other
        · rintro ⟨place, starts, first⟩
          cases place with
          | zero => exact absurd starts (none fields)
          | succ place =>
              refine ⟨place, objectAt_succ.mp starts, fun earlier before other => ?_⟩
              rw [← objectAt_succ]
              exact first (earlier + 1) (Nat.succ_lt_succ before) other

theorem firstObjectIn?_eq_none_iff {cs : List Char} :
    firstObjectIn? cs = none ↔ ∀ place fields, ¬ObjectAt cs place fields := by
  induction cs with
  | nil =>
      constructor
      · rintro _ place fields ⟨brace, _⟩
        cases brace
      · exact fun _ => rfl
  | cons c rest ih =>
      rcases firstObjectIn?_cons c rest with ⟨object, starts, found⟩ | ⟨none, further⟩
      · rw [found]
        constructor
        · intro same
          cases same
        · exact fun nowhere => absurd starts (nowhere 0 object)
      · rw [further, ih]
        constructor
        · intro nowhere place fields
          cases place with
          | zero => exact none fields
          | succ place =>
              rw [objectAt_succ]
              exact nowhere place fields
        · intro nowhere place fields
          rw [← objectAt_succ]
          exact nowhere (place + 1) fields

/-!
## Objects in prose
-/

theorem write_begins (fields : Fields) : (write (.obj fields)).toList.head? = some '\x7b' := by
  cases fields with
  | nil => rfl
  | cons field rest => simp [write]

theorem scanAll_write {fields : Fields} (keyed : Keyed (.obj fields)) :
    scanAll (write (.obj fields)).toList = .ok (.obj fields) :=
  (scanAll_object_iff (write_begins fields)).mpr
    ⟨_, [], (List.append_nil _).symm, gap_none, spells_write keyed⟩

/-- An object that is written in one line is read as itself. -/
theorem read_write {fields : Fields} (keyed : Keyed (.obj fields)) :
    read (write (.obj fields)) = .ok (.obj fields) := by
  rw [read, scanAll_write keyed]

theorem objectAt_written {fields : Fields} (keyed : Keyed (.obj fields)) (before after : List Char) :
    ObjectAt (before ++ ((write (.obj fields)).toList ++ after)) before.length fields := by
  have begins := write_begins fields
  have scanned := scanAll_write keyed
  generalize (write (.obj fields)).toList = piece at *
  have some : piece ≠ [] := by
    rintro rfl
    cases begins
  have longer := List.length_pos_iff.mpr some
  refine ⟨?_, before.length + piece.length, by omega, ?_, ?_⟩
  · rw [List.getElem?_append_right (le_refl _), Nat.sub_self, ← List.head?_eq_getElem?,
      List.head?_append_of_ne_nil _ some]
    exact begins
  · simp only [List.length_append]
    omega
  · rw [← List.append_assoc, ← List.length_append, List.take_left, List.drop_left]
    exact scanned

/-- An object that was written is the one found in its text. -/
theorem firstObject?_write {fields : Fields} (keyed : Keyed (.obj fields)) :
    firstObject? (write (.obj fields)) = some fields := by
  have written := objectAt_written keyed [] []
  rw [List.append_nil] at written
  exact firstObjectIn?_eq_some_iff.mpr
    ⟨0, written, fun earlier before => absurd before (Nat.not_lt_zero _)⟩

theorem not_objectAt_before {before rest : List Char} (plain : '\x7b' ∉ before) {place : Nat}
    (inside : place < before.length) (fields : Fields) : ¬ObjectAt (before ++ rest) place fields := by
  rintro ⟨brace, _⟩
  rw [List.getElem?_append_left inside] at brace
  exact plain (List.mem_of_getElem? brace)

/-- The object found is the one at the first place where one starts, and none is found exactly
when none starts anywhere. In particular an object that was written behind a text without braces
is found as it was, whatever follows it. -/
theorem firstObject?_first :
    (∀ text fields, firstObject? text = some fields ↔
      ∃ place, ObjectAt text.toList place fields ∧
        ∀ earlier < place, ∀ other, ¬ObjectAt text.toList earlier other) ∧
    (∀ text, firstObject? text = none ↔
      ∀ place fields, ¬ObjectAt text.toList place fields) ∧
    ∀ before after fields, '\x7b' ∉ before.toList → Keyed (.obj fields) →
      firstObject? (before ++ write (.obj fields) ++ after) = some fields := by
  refine ⟨fun text fields => firstObjectIn?_eq_some_iff,
    fun text => firstObjectIn?_eq_none_iff, ?_⟩
  intro before after fields plain keyed
  refine firstObjectIn?_eq_some_iff.mpr ⟨before.toList.length, ?_, ?_⟩
  · rw [String.toList_append, String.toList_append, List.append_assoc]
    exact objectAt_written keyed before.toList after.toList
  · intro earlier inside other
    rw [String.toList_append, String.toList_append, List.append_assoc]
    exact not_objectAt_before plain inside other

/-- A text with a quote, a backslash and braces of its own, behind an open quote. -/
theorem firstObject?_first_behind_quote :
    '\x7b' ∉ "It says \"\\".toList ∧
      Keyed (.obj [("\x7d\"", .str "\\\x7b"), ("n", .arr [.null, .obj [("n", .int 3)]])]) ∧
      firstObject? ("It says \"\\" ++
        write (.obj [("\x7d\"", .str "\\\x7b"), ("n", .arr [.null, .obj [("n", .int 3)]])]) ++
        "\x7d and more") =
        some [("\x7d\"", .str "\\\x7b"), ("n", .arr [.null, .obj [("n", .int 3)]])] := by
  have plain : '\x7b' ∉ "It says \"\\".toList := by decide
  have inner : Keyed (.obj [("n", .int 3)]) :=
    .obj (by decide) (List.forall_mem_singleton.mpr (.int 3))
  have list : Keyed (.arr [.null, .obj [("n", .int 3)]]) :=
    .arr (List.forall_mem_cons.mpr ⟨.null, List.forall_mem_singleton.mpr inner⟩)
  have keyed :
      Keyed (.obj [("\x7d\"", .str "\\\x7b"), ("n", .arr [.null, .obj [("n", .int 3)]])]) :=
    .obj (by decide)
      (List.forall_mem_cons.mpr ⟨.str "\\\x7b", List.forall_mem_singleton.mpr list⟩)
  exact ⟨plain, keyed, firstObject?_first.2.2 _ _ _ plain keyed⟩

end Gleaner.Json
