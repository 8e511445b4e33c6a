import Gleaner.Json.Embedded

/-!
# Walks of the brace matcher

What the matcher does with a piece of text, whatever follows it: a piece takes it from one
place to another. Outside quotes a piece that is level leaves the depth as it was, and so the
brace after it is the one that closes.
-/

set_option autoImplicit false

namespace Gleaner.Json

/-- A piece of text takes the matcher from one place to another. -/
def Walks (start finish : Balance) (piece : List Char) : Prop :=
  ∀ tail, balanced? start (piece ++ tail) = (balanced? finish tail).map (piece ++ ·)

def Balance.open (depth : Nat) : Balance := ⟨depth, false, false⟩

def Balance.inside (depth : Nat) : Balance := ⟨depth, true, false⟩

/-- A piece that leaves the matcher outside quotes and at the depth it had, within an object. -/
def Level (piece : List Char) : Prop :=
  ∀ depth, Walks (.open (depth + 1)) (.open (depth + 1)) piece

namespace Walks

variable {start middle finish : Balance} {first second : List Char} {c : Char} {depth : Nat}

theorem nil : Walks start start [] := by
  intro tail
  cases h : balanced? start tail <;> simp [h]

theorem append (walks : Walks start middle first) (walksOn : Walks middle finish second) :
    Walks start finish (first ++ second) := by
  intro tail
  rw [List.append_assoc, walks, walksOn, Option.map_map]
  congr 1
  funext rest
  exact (List.append_assoc first second rest).symm

theorem cons (walks : Walks start middle [c]) (walksOn : Walks middle finish second) :
    Walks start finish (c :: second) :=
  walks.append walksOn

theorem quote : Walks (.open depth) (.inside depth) ['"'] := by
  intro tail
  rfl

theorem unquote : Walks (.inside depth) (.open depth) ['"'] := by
  intro tail
  rfl

theorem escaped (c : Char) : Walks (.inside depth) (.inside depth) ['\\', c] := by
  intro tail
  have step : balanced? (.inside depth) ('\\' :: c :: tail) =
      ((balanced? (.inside depth) tail).map (c :: ·)).map ('\\' :: ·) := rfl
  rw [List.cons_append, List.cons_append, List.nil_append, step, Option.map_map]
  rfl

theorem quoted (notQuote : c ≠ '"') (notEscape : c ≠ '\\') :
    Walks (.inside depth) (.inside depth) [c] := by
  intro tail
  simp [balanced?, Balance.inside, notQuote, notEscape]

theorem plain (notQuote : c ≠ '"') (notOpen : c ≠ '\x7b') (notClose : c ≠ '\x7d') :
    Walks (.open depth) (.open depth) [c] := by
  intro tail
  simp [balanced?, Balance.open, notQuote, notOpen, notClose]

theorem opens : Walks (.open depth) (.open (depth + 1)) ['\x7b'] := by
  intro tail
  rfl

theorem closes : Walks (.open (depth + 2)) (.open (depth + 1)) ['\x7d'] := by
  intro tail
  rfl

end Walks

namespace Level

variable {first second : List Char} {c : Char}

theorem nil : Level [] :=
  fun _ => .nil

theorem append (level : Level first) (levelOn : Level second) : Level (first ++ second) :=
  fun depth => (level depth).append (levelOn depth)

theorem plain (notQuote : c ≠ '"') (notOpen : c ≠ '\x7b') (notClose : c ≠ '\x7d') : Level [c] :=
  fun _ => .plain notQuote notOpen notClose

theorem cons (level : Level [c]) (levelOn : Level second) : Level (c :: second) :=
  level.append levelOn

theorem ofPlain {piece : List Char}
    (plain : ∀ c ∈ piece, c ≠ '"' ∧ c ≠ '\x7b' ∧ c ≠ '\x7d') : Level piece := by
  induction piece with
  | nil => exact .nil
  | cons c rest ih =>
      obtain ⟨⟨notQuote, notOpen, notClose⟩, others⟩ := List.forall_mem_cons.mp plain
      exact .cons (.plain notQuote notOpen notClose) (ih others)

theorem braces (level : Level first) : Level ('\x7b' :: first ++ ['\x7d']) := by
  intro depth
  exact (Walks.opens.append (level (depth + 1))).append .closes

end Level

/-- A level piece in braces is all that the matcher takes from the first of them on. -/
theorem balanced?_braces {inner : List Char} (level : Level inner) (tail : List Char) :
    balanced? (.open 0) ('\x7b' :: inner ++ ['\x7d'] ++ tail) =
      some ('\x7b' :: inner ++ ['\x7d']) := by
  have walks : Walks (.open 0) (.open 1) ('\x7b' :: inner) := Walks.opens.append (level 0)
  rw [List.append_assoc, walks]
  rfl

end Gleaner.Json
