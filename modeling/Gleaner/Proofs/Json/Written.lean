import Gleaner.Json.Writer
import Gleaner.Proofs.Json.Figures
import Gleaner.Proofs.Json.Grammar

/-!
# Written values

What the writer puts on one line spells the value that it wrote.
-/

set_option autoImplicit false

namespace Gleaner.Json

/-!
## Units
-/

theorem hexValue?_digitChar : ∀ n < 16, hexValue? (Nat.digitChar n) = some n := by
  decide

theorem hex_one {n : Nat} (small : n < 16) : (Text.hex 1 n).toList = [Nat.digitChar n] := by
  unfold Text.hex
  dsimp only
  rw [String.toList_ofList, Nat.toDigits_of_lt_base small]
  rfl

/-- The last digit comes after the digits of what is left, with one zero fewer before them. -/
theorem hex_succ {width : Nat} (some : width ≠ 0) (n : Nat) :
    (Text.hex (width + 1) n).toList =
      (Text.hex width (n / 16)).toList ++ [Nat.digitChar (n % 16)] := by
  unfold Text.hex
  dsimp only
  rw [String.toList_ofList, String.toList_ofList]
  by_cases small : n < 16
  · obtain ⟨fewer, rfl⟩ := Nat.exists_eq_succ_of_ne_zero some
    have none : n / 16 = 0 := by omega
    have whole : n % 16 = n := by omega
    rw [Nat.toDigits_of_lt_base small, none, whole, Nat.toDigits_zero, List.length_singleton,
      List.length_singleton, Nat.add_sub_cancel, Nat.succ_sub_one, List.replicate_succ']
  · rw [Nat.toDigits_of_base_le (by decide) (Nat.le_of_not_lt small), List.length_append,
      List.length_singleton, Nat.add_sub_add_right, List.append_assoc]

theorem hex_four {n : Nat} (small : n < 65536) :
    (Text.hex 4 n).toList = [Nat.digitChar (n / 16 / 16 / 16), Nat.digitChar (n / 16 / 16 % 16),
      Nat.digitChar (n / 16 % 16), Nat.digitChar (n % 16)] := by
  rw [hex_succ (by decide), hex_succ (by decide), hex_succ (by decide), hex_one (by omega)]
  rfl

theorem unitValue?_hex {n : Nat} (small : n < 65536) :
    unitValue? (Nat.digitChar (n / 16 / 16 / 16)) (Nat.digitChar (n / 16 / 16 % 16))
      (Nat.digitChar (n / 16 % 16)) (Nat.digitChar (n % 16)) = some n := by
  unfold unitValue?
  rw [hexValue?_digitChar _ (by omega), hexValue?_digitChar _ (by omega),
    hexValue?_digitChar _ (by omega), hexValue?_digitChar _ (by omega)]
  simp only [Option.bind_eq_bind, Option.bind_some, Option.pure_def, Option.some.injEq]
  omega

theorem Quoted.unitEscape {draft : Draft} {n : Nat} {piece : List Char} {text : String}
    (small : n < 65536) (quoted : Quoted (draft.pushUnit n) piece text) :
    Quoted draft ((Json.unitEscape n).toList ++ piece) text := by
  have unit := quoted.unit (unitValue?_hex small)
  rw [Json.unitEscape, String.toList_append, hex_four small]
  exact unit

/-!
## Texts
-/

section Characters

variable {draft : Draft} (settled : draft.waiting = none)

include settled

theorem push_settled (c : Char) : draft.push c = ⟨c :: draft.done, none⟩ := by
  rw [Draft.push, Draft.settled, settled]
  rfl

theorem pushUnit_plain (c : Char) : draft.pushUnit c.toNat = draft.push c := by
  have valid : c.toNat < 0xD800 ∨ (0xDFFF < c.toNat ∧ c.toNat < 0x110000) := c.valid
  have high : isHighUnit c.toNat = false := by
    rw [isHighUnit, ← Bool.not_eq_true, Bool.and_eq_true, decide_eq_true_eq, decide_eq_true_eq]
    omega
  have low : isLowUnit c.toNat = false := by
    rw [isLowUnit, ← Bool.not_eq_true, Bool.and_eq_true, decide_eq_true_eq, decide_eq_true_eq]
    omega
  rw [Draft.pushUnit, settled]
  dsimp only
  rw [high, low, Char.ofNat_toNat]
  rfl

/-- The two halves of a pair make the character that they stand for. -/
theorem pushUnit_pair {c : Char} (large : ¬c.toNat < 0x10000) :
    (draft.pushUnit (0xD800 + (c.toNat - 0x10000) / 0x400)).pushUnit
      (0xDC00 + (c.toNat - 0x10000) % 0x400) = draft.push c := by
  have valid : c.toNat < 0xD800 ∨ (0xDFFF < c.toNat ∧ c.toNat < 0x110000) := c.valid
  have high : isHighUnit (0xD800 + (c.toNat - 0x10000) / 0x400) = true := by
    rw [isHighUnit, Bool.and_eq_true, decide_eq_true_eq, decide_eq_true_eq]
    omega
  have low : isLowUnit (0xDC00 + (c.toNat - 0x10000) % 0x400) = true := by
    rw [isLowUnit, Bool.and_eq_true, decide_eq_true_eq, decide_eq_true_eq]
    omega
  have whole : 0x10000 + (0xD800 + (c.toNat - 0x10000) / 0x400 - 0xD800) * 0x400 +
      (0xDC00 + (c.toNat - 0x10000) % 0x400 - 0xDC00) = c.toNat := by omega
  have waits : draft.pushUnit (0xD800 + (c.toNat - 0x10000) / 0x400) =
      ⟨draft.done, some (0xD800 + (c.toNat - 0x10000) / 0x400)⟩ := by
    rw [Draft.pushUnit, settled]
    dsimp only
    rw [if_pos high]
  rw [waits, Draft.pushUnit]
  dsimp only
  rw [if_pos low, whole, Char.ofNat_toNat, push_settled settled]

theorem Quoted.character {piece : List Char} {text : String} (c : Char)
    (quoted : Quoted (draft.push c) piece text) :
    Quoted draft ((Json.escape c).toList ++ piece) text := by
  unfold Json.escape
  split
  next same => exact (same ▸ quoted).escape (c := '"') rfl
  split
  next same => exact (same ▸ quoted).escape (c := '\\') rfl
  split
  next same => exact (same ▸ quoted).escape (c := 'n') rfl
  split
  next same => exact (same ▸ quoted).escape (c := 'r') rfl
  split
  next same => exact (same ▸ quoted).escape (c := 't') rfl
  split
  next same => exact (same ▸ quoted).escape (c := 'b') rfl
  split
  next same => exact (same ▸ quoted).escape (c := 'f') rfl
  split
  next notQuote notEscape _ _ _ _ _ printable =>
    rw [Bool.and_eq_true, decide_eq_true_eq] at printable
    rw [String.toList_singleton]
    exact quoted.push notQuote notEscape (Nat.not_lt.mpr printable.1)
  split
  next small =>
    refine .unitEscape small ?_
    rwa [pushUnit_plain settled]
  next large =>
    have valid : c.toNat < 0xD800 ∨ (0xDFFF < c.toNat ∧ c.toNat < 0x110000) := c.valid
    rw [String.toList_append, List.append_assoc]
    refine .unitEscape (by omega) (.unitEscape (by omega) ?_)
    rwa [pushUnit_pair settled large]

end Characters

theorem quoted_escaped {draft : Draft} (settled : draft.waiting = none) (cs : List Char) :
    Quoted draft (cs.flatMap (fun c => (escape c).toList) ++ ['"'])
      (String.ofList (draft.done.reverse ++ cs)) := by
  induction cs generalizing draft with
  | nil =>
      have done : draft.settled = draft.done := by
        rw [Draft.settled, settled]
        rfl
      rw [List.append_nil, ← done]
      exact .ends
  | cons c rest ih =>
      have further := @ih (draft.push c) rfl
      rw [push_settled settled, List.reverse_cons, List.append_assoc] at further
      rw [List.flatMap_cons, List.append_assoc]
      refine .character settled c ?_
      rw [push_settled settled]
      exact further

theorem quoted_writeString (s : String) :
    ∃ piece, (writeString s).toList = '"' :: piece ∧ Quoted ⟨[], none⟩ piece s := by
  refine ⟨s.toList.flatMap (fun c => (escape c).toList) ++ ['"'], ?_, ?_⟩
  · simp [writeString, String.toList_join, List.flatMap_map]
  · have quoted := @quoted_escaped ⟨[], none⟩ rfl s.toList
    rwa [List.reverse_nil, List.nil_append, String.ofList_toList] at quoted

/-!
## Words
-/

theorem text_notANumber : Decimal.Layout.json.text (0.0 / 0.0) = "NaN" := by
  decide +kernel

theorem text_infinity : Decimal.Layout.json.text (1.0 / 0.0) = "Infinity" := by
  decide +kernel

theorem text_minusInfinity : Decimal.Layout.json.text (-1.0 / 0.0) = "-Infinity" := by
  decide +kernel

theorem word_json_text (x : Float) : Word (Decimal.Layout.json.text x).toList (.float x) := by
  cases found : Decimal.Binary.ofFloat? x with
  | some b => exact word_float found
  | none =>
      rcases Decimal.not_finite found with rfl | rfl | rfl
      · rw [text_notANumber]
        exact .ofNaN
      · rw [text_infinity]
        exact .ofInfinity
      · rw [text_minusInfinity]
        exact .ofMinusInfinity

/-!
## Objects with each key once
-/

theorem put_new {α : Type} {key : String} (value : α) {entries : Entries α}
    (fresh : key ∉ entries.map (·.1)) : Entries.put key value entries = entries ++ [(key, value)] := by
  induction entries with
  | nil => rfl
  | cons entry rest ih =>
      rw [List.map_cons, List.mem_cons, not_or] at fresh
      rw [Entries.put, if_neg (Ne.symm fresh.1), ih fresh.2]
      rfl

theorem overlay_new {α : Type} {base updates : Entries α} (once : ((base ++ updates).map (·.1)).Nodup) :
    Entries.overlay base updates = base ++ updates := by
  induction updates generalizing base with
  | nil => exact (List.append_nil base).symm
  | cons entry rest ih =>
      have regrouped : base ++ entry :: rest = base ++ [entry] ++ rest := by simp
      have fresh : entry.1 ∉ base.map (·.1) := by
        rw [List.map_append, List.map_cons, List.nodup_append] at once
        exact fun found => once.2.2 _ found _ List.mem_cons_self rfl
      rw [regrouped] at once ⊢
      rw [← ih once]
      unfold Entries.overlay
      rw [List.foldl_cons, put_new entry.2 fresh]

theorem ofPairs_new {α : Type} {entries : Entries α} (once : (entries.map (·.1)).Nodup) :
    Entries.ofPairs entries = entries :=
  overlay_new once

/-- Every object in a value has each of its keys once. -/
inductive Keyed : Json → Prop where
  | null : Keyed .null
  | bool (value : Bool) : Keyed (.bool value)
  | int (value : Int) : Keyed (.int value)
  | float (value : Float) : Keyed (.float value)
  | str (value : String) : Keyed (.str value)
  | arr {items : List Json} (each : ∀ item ∈ items, Keyed item) : Keyed (.arr items)
  | obj {fields : Fields} (once : (fields.map (·.1)).Nodup)
      (each : ∀ field ∈ fields, Keyed field.2) : Keyed (.obj fields)

theorem keyed_ofStrings (texts : List String) : Keyed (.ofStrings texts) := by
  refine .arr fun item found => ?_
  obtain ⟨text, _, rfl⟩ := List.mem_map.mp found
  exact .str text

/-!
## Values
-/

theorem gap_none : Gap [] :=
  List.forall_mem_nil _

theorem gap_blank : Gap [' '] :=
  List.forall_mem_singleton.mpr rfl

theorem spells_writeItems {items : List Json}
    (each : ∀ item ∈ items, Spells (write item).toList (.value item)) {piece : List Char}
    {value : Json} (first : Spells piece (.value value)) :
    Spells (piece ++ (writeItems items).toList) (.items (value :: items)) := by
  induction items generalizing piece value with
  | nil => exact .lastItem first gap_none
  | cons item rest ih =>
      obtain ⟨next, others⟩ := List.forall_mem_cons.mp each
      have spelled := Spells.moreItems first gap_none gap_blank (ih others next)
      simpa [writeItems] using spelled

theorem spells_field (key : String) {piece : List Char} {value : Json}
    (spelled : Spells piece (.value value)) :
    Spells ((writeString key).toList ++ (':' :: ' ' :: piece)) (.field key value) := by
  obtain ⟨keyPiece, written, quoted⟩ := quoted_writeString key
  rw [written]
  exact .field quoted gap_none gap_blank spelled

theorem spells_writeFields {fields : Fields}
    (each : ∀ field ∈ fields, Spells (write field.2).toList (.value field.2)) {piece : List Char}
    {key : String} {value : Json} (first : Spells piece (.field key value)) :
    Spells (piece ++ (writeFields fields).toList) (.fields ((key, value) :: fields)) := by
  induction fields generalizing piece key value with
  | nil => exact .lastField first gap_none
  | cons field rest ih =>
      obtain ⟨next, others⟩ := List.forall_mem_cons.mp each
      have spelled := Spells.moreFields first gap_none gap_blank (ih others (spells_field field.1 next))
      simpa [writeFields] using spelled

/-- What the writer writes spells the value that it wrote. -/
theorem spells_write {v : Json} (keyed : Keyed v) : Spells (write v).toList (.value v) := by
  induction keyed with
  | null => exact .word .ofNull
  | bool value =>
      cases value with
      | true => exact .word .ofTrue
      | false => exact .word .ofFalse
  | int value => exact .word (word_int value)
  | float value => exact .word (word_json_text value)
  | str value =>
      obtain ⟨piece, written, quoted⟩ := quoted_writeString value
      have leaf : (write (.str value)).toList = '"' :: piece := written
      rw [leaf]
      exact .text quoted
  | @arr items _ ih =>
      cases items with
      | nil => exact .emptyList gap_none
      | cons item rest =>
          obtain ⟨first, others⟩ := List.forall_mem_cons.mp ih
          have spelled := Spells.list gap_none (spells_writeItems others first)
          simpa [write] using spelled
  | @obj fields once _ ih =>
      cases fields with
      | nil => exact .emptyObject gap_none
      | cons field rest =>
          obtain ⟨first, others⟩ := List.forall_mem_cons.mp ih
          have spelled := Spells.object gap_none (spells_writeFields others (spells_field field.1 first))
          rw [ofPairs_new once] at spelled
          simpa [write] using spelled

end Gleaner.Json
