import Gleaner.Text.Blank

/-!
# Places in a configuration text

A cursor is the rest of a text with its line and column. Blanks, line ends and remarks lie
between tokens; a tab is no blank there.
-/

set_option autoImplicit false

namespace Gleaner.Yaml

structure Cursor where
  rest : List Char
  line : Nat := 1
  column : Nat := 0

namespace Cursor

def next (cur : Cursor) : Cursor :=
  match cur.rest with
  | [] => cur
  | '\n' :: rest => ⟨rest, cur.line + 1, 0⟩
  | _ :: rest => ⟨rest, cur.line, cur.column + 1⟩

def skip : Nat → Cursor → Cursor
  | 0, cur => cur
  | n + 1, cur => skip n cur.next

def peek (cur : Cursor) : Option Char := cur.rest.head?

def atEnd (cur : Cursor) : Bool := cur.rest.isEmpty

def skipBlanks (cur : Cursor) : Cursor :=
  cur.skip (cur.rest.takeWhile (· = ' ')).length

private def gapsFrom : Bool → List Char → Nat → Nat → Cursor
  | _, [], line, column => ⟨[], line, column⟩
  | inRemark, c :: rest, line, column =>
      if c = '\n' then gapsFrom false rest (line + 1) 0
      else if inRemark || c = ' ' then gapsFrom inRemark rest line (column + 1)
      else if c = '#' then gapsFrom true rest line (column + 1)
      else ⟨c :: rest, line, column⟩

/-- Past blanks, line ends and remarks, to the next token. -/
def skipGaps (cur : Cursor) : Cursor :=
  gapsFrom false cur.rest cur.line cur.column

/-- Whether nothing but blanks and a remark is left on the line. -/
def lineIsDone (cur : Cursor) : Bool :=
  match cur.skipBlanks.peek with
  | none => true
  | some c => c = '\n' || c = '#'

end Cursor

/-- Whether a character, or the end, lets a mark such as a dash stand alone. -/
def endsMark : List Char → Bool
  | [] => true
  | c :: _ => c = ' ' || c = '\t' || c = '\n'

def beginsWithMark (mark : Char) : List Char → Bool
  | c :: rest => c = mark && endsMark rest
  | [] => false

end Gleaner.Yaml
