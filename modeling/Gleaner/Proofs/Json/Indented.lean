import Gleaner.Proofs.Json.Embedded

/-!
# Values over several lines

What the writer puts on several lines spells the value that it wrote as well: the lines between
members are gaps. An object that is written with an indentation is therefore read as itself.
-/

set_option autoImplicit false

namespace Gleaner.Json

theorem gap_lineAt (step depth : Nat) : Gap (lineAt step depth).toList := by
  intro c found
  rw [lineAt, String.toList_append] at found
  rcases List.mem_append.mp found with newLine | blank
  · cases List.mem_singleton.mp newLine
    rfl
  · rw [String.toList_ofList] at blank
    cases List.eq_of_mem_replicate blank
    rfl

section Members

variable {step depth : Nat} {gap : List Char}

theorem spells_writeItemLines {items : List Json}
    (each : ∀ item ∈ items, Spells (writeLines step (depth + 1) item).toList (.value item))
    {piece : List Char} {value : Json} (first : Spells piece (.value value)) (isGap : Gap gap) :
    Spells (piece ++ (writeItemLines step depth items).toList ++ gap) (.items (value :: items)) := by
  induction items generalizing piece value with
  | nil =>
      rw [writeItemLines, String.toList_empty, List.append_nil]
      exact .lastItem first isGap
  | cons item rest ih =>
      obtain ⟨next, others⟩ := List.forall_mem_cons.mp each
      have spelled := Spells.moreItems first gap_none (gap_lineAt step depth) (ih others next)
      simpa [writeItemLines] using spelled

theorem spells_writeFieldLines {fields : Fields}
    (each : ∀ field ∈ fields, Spells (writeLines step (depth + 1) field.2).toList (.value field.2))
    {piece : List Char} {key : String} {value : Json} (first : Spells piece (.field key value))
    (isGap : Gap gap) :
    Spells (piece ++ (writeFieldLines step depth fields).toList ++ gap)
      (.fields ((key, value) :: fields)) := by
  -- The field that is written so far is the first one, and the next ones take its place.
  induction fields generalizing piece key value with
  | nil =>
      rw [writeFieldLines, String.toList_empty, List.append_nil]
      exact .lastField first isGap
  | cons field rest ih =>
      obtain ⟨next, others⟩ := List.forall_mem_cons.mp each
      have spelled := Spells.moreFields first gap_none (gap_lineAt step depth)
        (ih others (spells_field field.1 next))
      simpa [writeFieldLines] using spelled

end Members

/-- Leaves are written as on one line; containers by their members, one line each. -/
theorem spells_writeLines {v : Json} (keyed : Keyed v) (step depth : Nat) :
    Spells (writeLines step depth v).toList (.value v) := by
  induction keyed generalizing depth with
  | null => exact spells_write .null
  | bool value => exact spells_write (.bool value)
  | int value => exact spells_write (.int value)
  | float value => exact spells_write (.float value)
  | str value => exact spells_write (.str value)
  | @arr items _ ih =>
      cases items with
      | nil =>
          have closed : writeLines step depth (.arr []) = "[]" := by simp [writeLines, writeLeaf]
          rw [closed]
          exact .emptyList gap_none
      | cons item rest =>
          obtain ⟨first, others⟩ := List.forall_mem_cons.mp ih
          have members := spells_writeItemLines (fun item found => others item found (depth + 1))
            (first (depth + 1)) (gap_lineAt step (depth - 1))
          have spelled := Spells.list (gap_lineAt step depth) members
          simpa [writeLines] using spelled
  | @obj fields once _ ih =>
      cases fields with
      | nil =>
          have closed : writeLines step depth (.obj []) = "\x7b\x7d" := by simp [writeLines, writeLeaf]
          rw [closed]
          exact .emptyObject gap_none
      | cons field rest =>
          obtain ⟨first, others⟩ := List.forall_mem_cons.mp ih
          have members := spells_writeFieldLines (fun field found => others field found (depth + 1))
            (spells_field field.1 (first (depth + 1))) (gap_lineAt step (depth - 1))
          have spelled := Spells.object (gap_lineAt step depth) members
          rw [ofPairs_new once] at spelled
          simpa [writeLines] using spelled

theorem writeIndented_begins (step : Nat) (fields : Fields) :
    (writeIndented step (.obj fields)).toList.head? = some '\x7b' := by
  unfold writeIndented
  cases fields with
  | nil => simp [writeLines, writeLeaf]
  | cons field rest => simp [writeLines]

/-- An object that is written with an indentation is read as itself. -/
theorem read_writeIndented (step : Nat) {fields : Fields} (keyed : Keyed (.obj fields)) :
    read (writeIndented step (.obj fields)) = .ok (.obj fields) := by
  have spelled := spells_writeLines keyed step 1
  have scanned := (scanAll_object_iff (writeIndented_begins step fields)).mpr
    ⟨_, [], (List.append_nil _).symm, gap_none, spelled⟩
  rw [read, scanned]

end Gleaner.Json
