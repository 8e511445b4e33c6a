import Gleaner.Yaml.Cursor
import Gleaner.Yaml.Value

/-!
# Scalars over several lines

Plain, quoted and block scalars. A line end inside a plain or quoted scalar stands for a
blank, and each further one for itself; blanks around line ends do not count.
-/

set_option autoImplicit false

namespace Gleaner.Yaml

structure Place where
  line : Nat
  column : Nat
  deriving Repr

abbrev Scan (α : Type) := Except Place α

def Cursor.refuse {α : Type} (cur : Cursor) : Scan α :=
  .error ⟨cur.line, cur.column⟩

/-! ## Plain scalars -/

def beginsPlain (flow : Bool) : List Char → Bool
  | [] => false
  | c :: rest =>
      if c = '-' then !endsMark rest
      else if c = '?' || c = ':' then !flow && !endsMark rest
      else !(" \t\n,[]\x7b\x7d#&*!|>'\"%@".contains c || c.toNat = 0x60)

/-- The characters of a plain scalar up to a blank or a mark. -/
def plainChunk (flow : Bool) : List Char → List Char
  | [] => []
  | c :: rest =>
      let stops := c = ' ' || c = '\t' || c = '\n' ||
        (c = ':' && (endsMark rest || (flow && rest.head?.any (",[]\x7b\x7d".contains ·)))) ||
        (flow && ",?[]\x7b\x7d".contains c)
      if stops then [] else c :: plainChunk flow rest

/-- What stands for the blanks between two chunks of a scalar, given the line ends in it. -/
def joint (blanks : List Char) (lineEnds : Nat) : List Char :=
  match lineEnds with
  | 0 => blanks
  | 1 => [' ']
  | more + 1 => List.replicate more '\n'

/-- A plain scalar; lines that go on must begin at the column or after it. The place is right
behind the last character. -/
def plainFrom (flow : Bool) (column : Nat) : Nat → Cursor → List Char × Cursor
  | 0, cur => ([], cur)
  | fuel + 1, cur =>
      let chunk := plainChunk flow cur.rest
      let behind := cur.skip chunk.length
      let gap := behind.rest.takeWhile fun c => c = ' ' || c = '\n'
      let later := behind.skip gap.length
      let goesOn := !chunk.isEmpty && !gap.isEmpty && later.peek ≠ some '#' &&
        (flow || !gap.contains '\n' || column ≤ later.column)
      if goesOn then
        match plainFrom flow column fuel later with
        | ([], _) => (chunk, behind)
        | (more, last) => (chunk ++ joint gap (gap.count '\n') ++ more, last)
      else (chunk, behind)

/-! ## Quoted scalars -/

/-- A part of a quoted scalar before its lines are joined. -/
inductive Piece where
  | char (c : Char)
  | blank (c : Char)
  | lineEnd
  /-- A line end that was escaped. -/
  | splice

/-- Joins the lines of a quoted scalar; `blanks` and `lineEnds` are what was passed since the
last character. -/
def joinPieces : (blanks : List Char) → (lineEnds : Nat) → (spliced : Bool) → List Piece →
    List Char
  | blanks, lineEnds, spliced, [] => gap blanks lineEnds spliced
  | blanks, lineEnds, spliced, .char c :: rest =>
      gap blanks lineEnds spliced ++ c :: joinPieces [] 0 false rest
  | blanks, lineEnds, spliced, .blank c :: rest =>
      joinPieces (if lineEnds = 0 && !spliced then blanks ++ [c] else blanks) lineEnds spliced rest
  | blanks, lineEnds, spliced, .lineEnd :: rest => joinPieces blanks (lineEnds + 1) spliced rest
  | blanks, _, _, .splice :: rest => joinPieces blanks 0 true rest
where
  gap (blanks : List Char) (lineEnds : Nat) (spliced : Bool) : List Char :=
    if spliced then blanks ++ List.replicate lineEnds '\n' else joint blanks lineEnds

private def pieceOf (c : Char) : Piece :=
  if c = '\n' then .lineEnd else if c = ' ' || c = '\t' then .blank c else .char c

/-- The pieces of a single-quoted scalar and the length of what was read. -/
def singlePieces : List Char → Option (List Piece × Nat)
  | [] => none
  | '\'' :: '\'' :: rest =>
      (singlePieces rest).map fun (pieces, n) => (.char '\'' :: pieces, n + 2)
  | '\'' :: _ => some ([], 1)
  | c :: rest => (singlePieces rest).map fun (pieces, n) => (pieceOf c :: pieces, n + 1)

private def simpleEscape (c : Char) : Option Char :=
  match c with
  | '0' => some '\x00'
  | 'a' => some '\x07'
  | 'b' => some '\x08'
  | 't' => some '\t'
  | '\t' => some '\t'
  | 'n' => some '\n'
  | 'v' => some '\x0b'
  | 'f' => some '\x0c'
  | 'r' => some '\r'
  | 'e' => some '\x1b'
  | ' ' => some ' '
  | '"' => some '"'
  | '\\' => some '\\'
  | '/' => some '/'
  | 'N' => some '\u0085'
  | '_' => some '\u00a0'
  | 'L' => some '\u2028'
  | 'P' => some '\u2029'
  | _ => none

private def hexWidth (c : Char) : Nat :=
  match c with
  | 'x' => 2
  | 'u' => 4
  | 'U' => 8
  | _ => 0

private def hexDigit (c : Char) : Option Nat :=
  if '0' ≤ c && c ≤ '9' then some (c.toNat - '0'.toNat)
  else if 'a' ≤ c && c ≤ 'f' then some (c.toNat - 'a'.toNat + 10)
  else if 'A' ≤ c && c ≤ 'F' then some (c.toNat - 'A'.toNat + 10)
  else none

private def hexChar (digits : List Char) (width : Nat) : Option Char :=
  if width ≠ 0 && digits.length = width then
    (digits.foldlM (fun n c => (hexDigit c).map (n * 16 + ·)) 0).map Char.ofNat
  else none

/-- The pieces of a double-quoted scalar and the length of what was read. -/
def doublePieces : Nat → List Char → Option (List Piece × Nat)
  | 0, _ => none
  | _, [] => none
  | _, '"' :: _ => some ([], 1)
  | fuel + 1, '\\' :: '\n' :: rest =>
      (doublePieces fuel rest).map fun (pieces, n) => (.splice :: pieces, n + 2)
  | fuel + 1, '\\' :: c :: rest => do
      match simpleEscape c with
      | some plain =>
          let (pieces, n) ← doublePieces fuel rest
          return (.char plain :: pieces, n + 2)
      | none =>
          let width := hexWidth c
          let escaped ← hexChar (rest.take width) width
          let (pieces, n) ← doublePieces fuel (rest.drop width)
          return (.char escaped :: pieces, n + 2 + width)
  | fuel + 1, c :: rest =>
      (doublePieces fuel rest).map fun (pieces, n) => (pieceOf c :: pieces, n + 1)

def quotedFrom (double : Bool) (cur : Cursor) : Scan (String × Cursor) :=
  let read := if double then doublePieces (cur.rest.length + 1) cur.rest else singlePieces cur.rest
  match read with
  | some (pieces, length) => .ok (String.ofList (joinPieces [] 0 false pieces), cur.skip length)
  | none => cur.refuse

/-! ## Block scalars -/

/-- How the last line ends of a block scalar count. -/
inductive Chomp where
  | clip
  | strip
  | keep
  deriving DecidableEq

/-- The marks behind the bar of a block scalar: how it ends, and how far it is indented. -/
def blockHeader (marks : List Char) : Option (Chomp × Option Nat) :=
  let width (c : Char) : Option Nat :=
    if '1' ≤ c && c ≤ '9' then some (c.toNat - '0'.toNat) else none
  let chomp (c : Char) : Option Chomp :=
    if c = '-' then some .strip else if c = '+' then some .keep else none
  match marks with
  | [] => some (.clip, none)
  | [c] => ((chomp c).map (·, none)).or ((width c).map (.clip, some ·))
  | [a, b] =>
      match chomp a, width b, width a, chomp b with
      | some mark, some n, _, _ => some (mark, some n)
      | _, _, some n, some mark => some (mark, some n)
      | _, _, _, _ => none
  | _ => none

private def indentOf (line : List Char) : Nat := (line.takeWhile (· = ' ')).length

private def isBlankLine (line : List Char) : Bool := line.all (· = ' ')

private def beginsWithText (line : List Char) : Bool :=
  !(line.head?.any fun c => c = ' ' || c = '\t')

/-- The lines of a folded scalar behind a line: between two lines that begin with text a line
end is a blank, and of several the first does not count. -/
def foldLines (afterText : Bool) (empties : Nat) : List (List Char) → List Char
  | [] => []
  | [] :: rest => foldLines afterText (empties + 1) rest
  | line :: rest =>
      let text := beginsWithText line
      let between :=
        if !(afterText && text) then List.replicate (empties + 1) '\n'
        else if empties = 0 then [' ']
        else List.replicate empties '\n'
      between ++ line ++ foldLines text 0 rest

def foldAll (lines : List (List Char)) : List Char :=
  let empties := (lines.takeWhile List.isEmpty).length
  List.replicate empties '\n' ++
    match lines.drop empties with
    | [] => []
    | line :: rest => line ++ foldLines (beginsWithText line) 0 rest

def linesOf (cs : List Char) : List (List Char) :=
  ((String.ofList cs).splitOn "\n").map String.toList

/-- A block scalar behind its bar, inside a block of some indentation. -/
def blockFrom (folded : Bool) (parent : Nat) (cur : Cursor) : Scan (String × Cursor) := do
  let marks := cur.rest.takeWhile fun c => c ≠ ' ' && c ≠ '\n'
  let behind := cur.skip marks.length
  match blockHeader marks with
  | none => cur.refuse
  | some (chomp, width) =>
      if !behind.lineIsDone then behind.refuse
      else
        let header := cur.rest.takeWhile (· ≠ '\n')
        let body := cur.rest.drop (header.length + 1)
        let lines := linesOf body
        let blanksBefore := lines.takeWhile isBlankLine
        let firstText := ((lines.drop blanksBefore.length).head?.map indentOf).getD 0
        let found := (blanksBefore.map List.length ++ [firstText]).foldl Nat.max parent
        let indent := match width with
          | some n => parent - 1 + n
          | none => found
        let own := lines.takeWhile fun line => isBlankLine line || indent ≤ indentOf line
        let texts := own.map (·.drop indent)
        let trailing := (texts.reverse.takeWhile List.isEmpty).length
        let kept := texts.take (texts.length - trailing)
        let hasEnd := own.length < lines.length
        let content := if folded then foldAll kept else (kept.intersperse ['\n']).flatten
        let tail := match chomp with
          | .strip => []
          | .clip => if kept.isEmpty || (!hasEnd && trailing = 0) then [] else ['\n']
          | .keep => List.replicate (if kept.isEmpty then trailing else trailing + 1) '\n'
        let length := header.length + 1 + own.foldl (fun size line => size + line.length + 1) 0
        return (String.ofList (content ++ tail), cur.skip (min length cur.rest.length))

end Gleaner.Yaml
