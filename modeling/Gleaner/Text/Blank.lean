/-!
# Blanks

The characters that count as blank, and texts without them at their ends. Trimming is stated
on lists of characters; `strip` and `words` are the same on texts.
-/

set_option autoImplicit false

namespace Gleaner.Text

/-- Space, tabs and line ends, the information separators, and the spaces of all scripts. -/
def isBlank (c : Char) : Bool :=
  let n := c.toNat
  (9 ≤ n && n ≤ 13) || (28 ≤ n && n ≤ 32) || n = 0x85 || n = 0xA0 || n = 0x1680 ||
    (0x2000 ≤ n && n ≤ 0x200A) || n = 0x2028 || n = 0x2029 || n = 0x202F || n = 0x205F ||
    n = 0x3000

/-- The blanks that may surround a numeral: all but the information separators. -/
def isSpace (c : Char) : Bool :=
  isBlank c && !(28 ≤ c.toNat && c.toNat ≤ 31)

/-- Characters from the first to the last that fails `drop`. -/
def trimBy (drop : Char → Bool) (cs : List Char) : List Char :=
  ((cs.dropWhile drop).reverse.dropWhile drop).reverse

def strip (s : String) : String :=
  String.ofList (trimBy isBlank s.toList)

def isBlankText (s : String) : Bool :=
  s.toList.all isBlank

def splitBlank (cs : List Char) : List (List Char) :=
  (cs.splitBy fun a b => isBlank a == isBlank b).filter fun run => !run.all isBlank

/-- The words of a text, one space between each two. -/
def squeeze (s : String) : String :=
  String.ofList ((splitBlank s.toList).intersperse [' ']).flatten

def dropEnd (drop : Char → Bool) (s : String) : String :=
  String.ofList (s.toList.reverse.dropWhile drop).reverse

def contains (part whole : List Char) : Bool :=
  match whole with
  | [] => part.isEmpty
  | _ :: rest => part.isPrefixOf whole || contains part rest

def occursIn (part whole : String) : Bool :=
  contains part.toList whole.toList

def take (count : Nat) (s : String) : String :=
  String.ofList (s.toList.take count)

theorem trimBy_idem (drop : Char → Bool) (cs : List Char) :
    trimBy drop (trimBy drop cs) = trimBy drop cs := by
  have front : ∀ l : List Char, (l.dropWhile drop).dropWhile drop = l.dropWhile drop := by
    intro l
    induction l with
    | nil => rfl
    | cons c rest ih =>
        by_cases h : drop c <;> simp [h, ih]
  have keep : ∀ l : List Char, l.dropWhile drop = l →
      (l.reverse.dropWhile drop).reverse.dropWhile drop = (l.reverse.dropWhile drop).reverse := by
    intro l fixed
    cases l with
    | nil => rfl
    | cons c rest =>
        have stays : drop c = false := by
          cases h : drop c with
          | false => rfl
          | true =>
              simp only [List.dropWhile_cons, h, if_true] at fixed
              have := congrArg List.length fixed
              have short := (List.dropWhile_sublist (p := drop) (l := rest)).length_le
              simp only [List.length_cons] at this
              omega
        rw [List.reverse_cons, List.dropWhile_append]
        split
        · next none => simp [stays]
        · simp [stays]
  unfold trimBy
  rw [keep (cs.dropWhile drop) (front cs), List.reverse_reverse, front]

end Gleaner.Text
