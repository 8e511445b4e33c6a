import Gleaner.Text.Pattern.Basic

/-!
# Reading patterns

From the text of a pattern to the pattern, or to the reason why it is none. Positions count
characters from zero; the reader works on the rest of the text, and a refusal carries how
much of it was left.
-/

set_option autoImplicit false

namespace Gleaner.Text

inductive PatternFault where
  | unclosedGroup
  | unclosedSet
  | nothingToRepeat
  | multipleRepeat
  | unbalanced
  | badEscape (escape : String)
  | escapeAtEnd
  | badRange (range : String)
  | emptyBounds
  | unexpectedEnd
  | unknownExtension (mark : String)
  | lateFlags
  | unknownGroup (index : Nat)
  deriving DecidableEq, Repr

def PatternFault.message : PatternFault → String
  | .unclosedGroup => "missing ), unterminated subpattern"
  | .unclosedSet => "unterminated character set"
  | .nothingToRepeat => "nothing to repeat"
  | .multipleRepeat => "multiple repeat"
  | .unbalanced => "unbalanced parenthesis"
  | .badEscape escape => "bad escape " ++ escape
  | .escapeAtEnd => "bad escape (end of pattern)"
  | .badRange range => "bad character range " ++ range
  | .emptyBounds => "min repeat greater than max repeat"
  | .unexpectedEnd => "unexpected end of pattern"
  | .unknownExtension mark => "unknown extension ?" ++ mark
  | .lateFlags => "global flags not at the start of the expression"
  | .unknownGroup index => s!"invalid group reference {index}"

/-- A fault and the number of characters left at the place it is reported for. -/
structure PatternStop where
  fault : PatternFault
  left : Nat
  deriving Repr

/-- A part of a sequence. Repetitions may not be repeated again, and anchors not at all. -/
structure Piece where
  pattern : Pattern
  repeated : Bool := false
  anchored : Bool := false

/-- What reading a part leaves: the groups opened so far, the flag for case, the rest. -/
structure ReaderState where
  groups : Nat
  ignoreCase : Bool
  rest : List Char

private def fail {α : Type} (fault : PatternFault) (left : Nat) : Except PatternStop α :=
  .error ⟨fault, left⟩

private def hexNumber? (digits : List Char) : Option Nat :=
  digits.foldlM (fun n c =>
    if '0' ≤ c && c ≤ '9' then some (n * 16 + (c.toNat - '0'.toNat))
    else if 'a' ≤ c.toLower && c.toLower ≤ 'f' then
      some (n * 16 + (c.toLower.toNat - 'a'.toNat + 10))
    else none) 0

def readCharEscape (left : Nat) : List Char → Except PatternStop (Char × List Char)
  | [] => fail .escapeAtEnd left
  | c :: rest =>
      let coded (width : Nat) : Except PatternStop (Char × List Char) :=
        let digits := rest.take width
        match hexNumber? digits with
        | some n =>
            if digits.length = width then .ok (Char.ofNat n, rest.drop width)
            else fail (.badEscape ("\\" ++ String.ofList (c :: digits))) left
        | none => fail (.badEscape ("\\" ++ String.ofList [c])) left
      match c with
      | 'n' => .ok ('\n', rest)
      | 't' => .ok ('\t', rest)
      | 'r' => .ok ('\r', rest)
      | 'f' => .ok ('\x0c', rest)
      | 'v' => .ok ('\x0b', rest)
      | 'a' => .ok ('\x07', rest)
      | '0' => .ok ('\x00', rest)
      | 'x' => coded 2
      | 'u' => coded 4
      | 'U' => coded 8
      | _ =>
          if c.isAlpha then fail (.badEscape ("\\" ++ String.singleton c)) left
          else .ok (c, rest)

def classEscape? : Char → Option (CharClass × Bool)
  | 'd' => some (.digit, false)
  | 'D' => some (.digit, true)
  | 's' => some (.blank, false)
  | 'S' => some (.blank, true)
  | 'w' => some (.word, false)
  | 'W' => some (.word, true)
  | _ => none

/-- An escape outside of a set, after the backslash; `groups` have been opened before it. -/
def readEscape (groups left : Nat) : List Char → Except PatternStop (Piece × List Char)
  | [] => fail .escapeAtEnd left
  | c :: rest =>
      match classEscape? c with
      | some (kind, negated) => .ok (⟨.family kind negated, false, false⟩, rest)
      | none =>
          match c with
          | 'b' => .ok (⟨.anchor .wordEdge, false, true⟩, rest)
          | 'B' => .ok (⟨.anchor .noWordEdge, false, true⟩, rest)
          | 'A' => .ok (⟨.anchor .start, false, true⟩, rest)
          | 'Z' => .ok (⟨.anchor .finish, false, true⟩, rest)
          | _ =>
              if '1' ≤ c && c ≤ '9' then
                let index := c.toNat - '0'.toNat
                if groups < index then fail (.unknownGroup index) (left - 1)
                else .ok (⟨.same index, false, false⟩, rest)
              else do
                let (d, rest) ← readCharEscape left (c :: rest)
                return (⟨.char d, false, false⟩, rest)

/-- One end of a range, or a class: the member, how it is written, the rest. -/
def readSetMember (left : Nat) :
    List Char → Except PatternStop (SetMember × List Char × List Char)
  | [] => fail .unclosedSet left
  | '\\' :: rest =>
      match rest with
      | [] => fail .escapeAtEnd 1
      | c :: after =>
          match classEscape? c with
          | some (kind, negated) => .ok (.family kind negated, ['\\', c], after)
          | none =>
              if c = 'b' then .ok (.one '\x08', ['\\', c], after)
              else do
                let (d, after) ← readCharEscape (rest.length + 1) (c :: after)
                return (.one d, '\\' :: rest.take (rest.length - after.length), after)
  | c :: rest => .ok (.one c, [c], rest)

/-- The members of a set after its opening bracket; `left` is what was left at the bracket. -/
def readSet (left : Nat) : Nat → List SetMember → List Char →
    Except PatternStop (List SetMember × List Char)
  | 0, _, _ => fail .unclosedSet left
  | fuel + 1, members, cs =>
      match cs, members with
      | ']' :: rest, _ :: _ => .ok (members.reverse, rest)
      | _, _ => do
          let (member, written, rest) ← readSetMember left cs
          match rest with
          | '-' :: ']' :: rest => return ((.one '-' :: member :: members).reverse, rest)
          | '-' :: rest =>
              let (upper, upperWritten, rest) ← readSetMember left rest
              let bad : PatternFault :=
                .badRange (String.ofList (written ++ '-' :: upperWritten))
              match member, upper with
              | .one first, .one last =>
                  if last < first then fail bad cs.length
                  else readSet left fuel (.range first last :: members) rest
              | _, _ => fail bad cs.length
          | _ => readSet left fuel (member :: members) rest

private def digitsOf (cs : List Char) : List Char × List Char :=
  (cs.takeWhile Char.isDigit, cs.dropWhile Char.isDigit)

private def valueOf (digits : List Char) : Nat :=
  digits.foldl (fun n c => n * 10 + (c.toNat - '0'.toNat)) 0

/-- The bounds of a repetition at its mark: least count, greatest count, rest. Nothing when
the characters are no repetition. -/
def readBounds : List Char → Except PatternStop (Option (Nat × Option Nat × List Char))
  | '*' :: rest => .ok (some (0, none, rest))
  | '+' :: rest => .ok (some (1, none, rest))
  | '?' :: rest => .ok (some (0, some 1, rest))
  | '{' :: '}' :: _ => .ok none
  | '{' :: inner =>
      let (low, afterLow) := digitsOf inner
      let (high, afterHigh) :=
        match afterLow with
        | ',' :: rest => digitsOf rest
        | _ => (low, afterLow)
      match afterHigh with
      | '}' :: rest =>
          let least := valueOf low
          if high.isEmpty then .ok (some (least, none, rest))
          else if valueOf high < least then fail .emptyBounds inner.length
          else .ok (some (least, some (valueOf high), rest))
      | _ => .ok none
  | _ => .ok none

/-- One after another. -/
def Pattern.ofPieces (pieces : List Piece) : Pattern :=
  pieces.foldr (fun piece rest =>
    match rest with
    | .empty => piece.pattern
    | _ => .seq piece.pattern rest) .empty

mutual

/-- Alternatives up to a closing parenthesis or the end. -/
def readBranches (nested : Bool) : Nat → ReaderState →
    Except PatternStop (Pattern × ReaderState)
  | 0, state => fail .unexpectedEnd state.rest.length
  | fuel + 1, state => do
      let (pieces, state) ← readPieces nested fuel [] state
      let first := Pattern.ofPieces pieces
      match state.rest with
      | '|' :: rest => do
          let (others, state) ← readBranches true fuel { state with rest }
          return (.alt first others, state)
      | _ => return (first, state)

/-- A sequence of pieces; `done` holds them last first. -/
def readPieces (nested : Bool) : Nat → List Piece → ReaderState →
    Except PatternStop (List Piece × ReaderState)
  | 0, _, state => fail .unexpectedEnd state.rest.length
  | fuel + 1, done, state =>
      let left := state.rest.length
      let push (piece : Piece) (rest : List Char) :=
        readPieces nested fuel (piece :: done) { state with rest }
      match state.rest with
      | [] => .ok (done.reverse, state)
      | '|' :: _ => .ok (done.reverse, state)
      | ')' :: _ => .ok (done.reverse, state)
      | '\\' :: rest => do
          let (piece, rest) ← readEscape state.groups left rest
          push piece rest
      | '.' :: rest => push ⟨.any, false, false⟩ rest
      | '^' :: rest => push ⟨.anchor .start, false, true⟩ rest
      | '$' :: rest => push ⟨.anchor .lastLine, false, true⟩ rest
      | '[' :: '^' :: rest => do
          let (members, rest) ← readSet left (left + 1) [] rest
          push ⟨.set true members, false, false⟩ rest
      | '[' :: rest => do
          let (members, rest) ← readSet left (left + 1) [] rest
          push ⟨.set false members, false, false⟩ rest
      | '(' :: rest => do
          match ← readGroup nested fuel (left, done.isEmpty) { state with rest } with
          | (some piece, state) => readPieces nested fuel (piece :: done) state
          | (none, state) => readPieces nested fuel done state
      | c :: rest => do
          match ← readBounds state.rest with
          | none => push ⟨.char c, false, false⟩ rest
          | some (least, most, rest) =>
              match done with
              | [] => fail .nothingToRepeat left
              | last :: before =>
                  if last.anchored then fail .nothingToRepeat left
                  else if last.repeated then fail .multipleRepeat left
                  else
                    let (greedy, rest) :=
                      match rest with
                      | '?' :: rest => (false, rest)
                      | '+' :: rest => (true, rest)
                      | _ => (true, rest)
                    let extra := most.map (· - least)
                    readPieces nested fuel
                      (⟨.again last.pattern least extra greedy, true, false⟩ :: before)
                      { state with rest }

/-- What follows an opening parenthesis; nothing when it only sets a flag. The pair says what
was left at the parenthesis and whether it comes first in its sequence. -/
def readGroup (nested : Bool) : Nat → Nat × Bool → ReaderState →
    Except PatternStop (Option Piece × ReaderState)
  | 0, (left, _), _ => fail .unclosedGroup left
  | fuel + 1, (left, first), state =>
      let close (wrap : Pattern → Pattern) (state : ReaderState) :
          Except PatternStop (Option Piece × ReaderState) := do
        let (inner, state) ← readBranches true fuel state
        match state.rest with
        | ')' :: rest => return (some ⟨wrap inner, false, false⟩, { state with rest })
        | _ => fail .unclosedGroup left
      match state.rest with
      | '?' :: ':' :: rest => close id { state with rest }
      | '?' :: '=' :: rest => close (.look false) { state with rest }
      | '?' :: '!' :: rest => close (.look true) { state with rest }
      | '?' :: 'P' :: '<' :: rest =>
          let name := rest.takeWhile (· ≠ '>')
          let index := state.groups + 1
          close (.group index)
            { state with groups := index, rest := rest.drop (name.length + 1) }
      | '?' :: 'i' :: ')' :: rest =>
          if nested || !first then fail .lateFlags left
          else .ok (none, { state with ignoreCase := true, rest })
      | '?' :: [] => fail .unexpectedEnd 0
      | '?' :: c :: rest => fail (.unknownExtension (String.singleton c)) (rest.length + 2)
      | rest =>
          let index := state.groups + 1
          close (.group index) { state with groups := index, rest }

end

/-- A fault and the position it is reported for. -/
structure PatternError where
  fault : PatternFault
  position : Nat
  /-- Line and column, for patterns of several lines. -/
  place : Option (Nat × Nat)
  deriving Repr

def PatternError.message (e : PatternError) : String :=
  e.fault.message ++ s!" at position {e.position}" ++
    match e.place with
    | some (line, column) => s!" (line {line}, column {column})"
    | none => ""

private def PatternError.at (cs : List Char) (stop : PatternStop) : PatternError :=
  let position := cs.length - stop.left
  let before := cs.take position
  { fault := stop.fault
    position
    place :=
      if cs.contains '\n' then
        some (before.count '\n' + 1, (before.reverse.takeWhile (· ≠ '\n')).length + 1)
      else none }

def Search.read (text : String) : Except PatternError Search :=
  let cs := text.toList
  match readBranches false (4 * cs.length + 8) ⟨0, false, cs⟩ with
  | .error stop => .error (.at cs stop)
  | .ok (pattern, state) =>
      match state.rest with
      | [] => .ok ⟨pattern, state.groups, state.ignoreCase⟩
      | rest => .error (.at cs ⟨.unbalanced, rest.length⟩)

end Gleaner.Text
