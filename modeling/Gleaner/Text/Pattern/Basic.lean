import Gleaner.Text.Alphanumeric
import Gleaner.Text.Blank
import Gleaner.Text.Digit
import Gleaner.Text.LowerCase

/-!
# Patterns

Search patterns and what they match. A pattern denotes a `Matcher`: given a place in the text
and what to do after a match, it tries its ways of matching in order and answers the first
that lets the rest succeed. A pass of a repetition that takes nothing is its last, so every
search ends.
-/

set_option autoImplicit false

namespace Gleaner.Text

/-- A class of characters named by an escape. -/
inductive CharClass where
  | digit
  | blank
  | word
  deriving DecidableEq, Repr

def CharClass.holds : CharClass → Char → Bool
  | .digit, c => isDigit c
  | .blank, c => isBlank c
  | .word, c => isWord c

inductive SetMember where
  | one (c : Char)
  | range (first last : Char)
  | family (kind : CharClass) (negated : Bool)
  deriving Repr

/-- Places in a text that take no characters. -/
inductive Anchor where
  | start
  | finish
  /-- At the end, or before a line end that is the last character. -/
  | lastLine
  | wordEdge
  | noWordEdge
  deriving DecidableEq, Repr

inductive Pattern where
  | empty
  | char (c : Char)
  | any
  | family (kind : CharClass) (negated : Bool)
  | set (negated : Bool) (members : List SetMember)
  | anchor (place : Anchor)
  | seq (first second : Pattern)
  | alt (first second : Pattern)
  | group (index : Nat) (inner : Pattern)
  | same (index : Nat)
  | look (negated : Bool) (inner : Pattern)
  | again (inner : Pattern) (least : Nat) (extra : Option Nat) (greedy : Bool)
  deriving Repr

/-- A pattern as it is used: how many groups it has, and whether case matters. -/
structure Search where
  pattern : Pattern
  groups : Nat
  ignoreCase : Bool

/-- A place in the text: the character before it and the characters after it. -/
structure Cursor where
  before : Option Char
  rest : List Char

/-- The texts captured so far, newest first. -/
abbrev Captures := List (Nat × List Char)

/-- Tries to match at a place and to go on from there. -/
abbrev Matcher :=
  Cursor → Captures → (Cursor → Captures → Option (Cursor × Captures)) →
    Option (Cursor × Captures)

namespace Matcher

def ofTest (test : Char → Bool) : Matcher := fun here captures next =>
  match here.rest with
  | c :: rest => if test c then next ⟨some c, rest⟩ captures else none
  | [] => none

def ofPlace (test : Cursor → Bool) : Matcher := fun here captures next =>
  if test here then next here captures else none

def seq (first second : Matcher) : Matcher := fun here captures next =>
  first here captures fun middle captures => second middle captures next

def alt (first second : Matcher) : Matcher := fun here captures next =>
  (first here captures next).or (second here captures next)

def between (first last : Cursor) : List Char :=
  first.rest.take (first.rest.length - last.rest.length)

def group (index : Nat) (inner : Matcher) : Matcher := fun here captures next =>
  inner here captures fun after captures => next after ((index, between here after) :: captures)

/-- Exactly `count` passes. -/
def times (inner : Matcher) : Nat → Matcher
  | 0 => fun here captures next => next here captures
  | count + 1 => seq inner (times inner count)

/-- Up to `count` further passes. A pass starts only where the pass before it did not, so a
pass that takes nothing is the last one; `previous` is what was left at the start of the one
before. -/
def upTo (greedy : Bool) (inner : Matcher) : Nat → Option Nat → Matcher
  | 0, _ => fun here captures next => next here captures
  | count + 1, previous => fun here captures next =>
      let left := some here.rest.length
      let more := fun (_ : Unit) =>
        if previous = left then none
        else
          inner here captures fun after captures =>
            upTo greedy inner count left after captures next
      let enough := fun (_ : Unit) => next here captures
      if greedy then (more ()).orElse enough else (enough ()).orElse more

/-- At least `least` passes and up to `extra` more; without a bound, as many as the characters
that are left allow. -/
def again (inner : Matcher) (least : Nat) (extra : Option Nat) (greedy : Bool) : Matcher :=
  seq (times inner least) fun here captures next =>
    let bound := here.rest.length + 2
    upTo greedy inner ((extra.getD bound).min bound) none here captures next

def look (negated : Bool) (inner : Matcher) : Matcher := fun here captures next =>
  match inner here captures fun after captures => some (after, captures) with
  | some (_, found) => if negated then none else next here found
  | none => if negated then next here captures else none

def same (ignoreCase : Bool) (index : Nat) : Matcher := fun here captures next =>
  match captures.find? (·.1 = index) with
  | none => none
  | some (_, text) =>
      let fold (cs : List Char) := if ignoreCase then cs.map lowerCase else cs
      let found := here.rest.take text.length
      if found.length = text.length && fold found == fold text then
        next ⟨found.getLast?.or here.before, here.rest.drop text.length⟩ captures
      else none

end Matcher

/-- The characters that count as one where case does not matter. -/
def caseForms (ignoreCase : Bool) (c : Char) : List Char :=
  if ignoreCase then [c, lowerCase c, c.toUpper] else [c]

def SetMember.holds (c : Char) : SetMember → Bool
  | .one d => c = d
  | .range first last => first ≤ c && c ≤ last
  | .family kind negated => kind.holds c != negated

def Anchor.holds (place : Anchor) (here : Cursor) : Bool :=
  let edge := (here.before.any isWord) != (here.rest.head?.any isWord)
  match place with
  | .start => here.before.isNone
  | .finish => here.rest.isEmpty
  | .lastLine => here.rest.isEmpty || here.rest == ['\n']
  | .wordEdge => edge
  | .noWordEdge => !edge

def Pattern.matcher (ignoreCase : Bool) : Pattern → Matcher
  | .empty => fun here captures next => next here captures
  | .char c => .ofTest fun d =>
      if ignoreCase then lowerCase c = lowerCase d else c = d
  | .any => .ofTest (· ≠ '\n')
  | .family kind negated => .ofTest fun c => kind.holds c != negated
  | .set negated members => .ofTest fun c =>
      (caseForms ignoreCase c).any (fun c => members.any (·.holds c)) != negated
  | .anchor place => .ofPlace place.holds
  | .seq first second => .seq (first.matcher ignoreCase) (second.matcher ignoreCase)
  | .alt first second => .alt (first.matcher ignoreCase) (second.matcher ignoreCase)
  | .group index inner => .group index (inner.matcher ignoreCase)
  | .same index => .same ignoreCase index
  | .look negated inner => .look negated (inner.matcher ignoreCase)
  | .again inner least extra greedy => .again (inner.matcher ignoreCase) least extra greedy

/-- What a search found: the whole match and the captured groups. -/
structure Found where
  text : List Char
  captures : Captures

def Search.from (search : Search) (before : Option Char) : List Char → Option Found
  | [] => tryAt ⟨before, []⟩
  | c :: rest => (tryAt ⟨before, c :: rest⟩).or (search.from (some c) rest)
where
  tryAt (here : Cursor) : Option Found :=
    (search.pattern.matcher search.ignoreCase here [] fun after captures =>
      some (after, captures)).map fun (after, captures) => ⟨Matcher.between here after, captures⟩

def Search.find? (search : Search) (text : String) : Option Found :=
  search.from none text.toList

/-- The text of a group, if it took part in the match; group 0 is the whole match. -/
def Found.group? (found : Found) (index : Nat) : Option String :=
  if index = 0 then some (String.ofList found.text)
  else (found.captures.find? (·.1 = index)).map fun capture => String.ofList capture.2

end Gleaner.Text
