import Gleaner.Yaml.Scalar

/-!
# Reading YAML

Block and flow collections over the scalars. In block style the column of the first token of
a collection is its indentation, and a token that stands deeper or shallower than every open
collection is an error; in flow style brackets rule and lines do not matter.
-/

set_option autoImplicit false

namespace Gleaner.Yaml

/-! ## Flow style -/

mutual

/-- A value in flow style; `column` bounds plain scalars that go on over lines. -/
def flowNode (flow : Bool) (column : Nat) : Nat → Cursor → Scan (Yaml × Cursor)
  | 0, cur => cur.refuse
  | fuel + 1, cur =>
      match cur.rest with
      | '[' :: _ => do
          let (items, cur) ← flowItems fuel cur.next.skipGaps
          return (.seq items, cur)
      | '\x7b' :: _ => do
          let (entries, cur) ← flowEntries fuel cur.next.skipGaps
          return (.map entries, cur)
      | '"' :: _ => do
          let (text, cur) ← quotedFrom true cur.next
          return (.str text, cur)
      | '\'' :: _ => do
          let (text, cur) ← quotedFrom false cur.next
          return (.str text, cur)
      | cs =>
          if beginsPlain flow cs then
            let (chars, cur) := plainFrom flow column cs.length cur
            .ok (.ofPlain (String.ofList chars), cur)
          else cur.refuse

/-- The value behind a colon in flow style; nothing before a mark that ends it. -/
def flowValue : Nat → Cursor → Scan (Yaml × Cursor)
  | 0, cur => cur.refuse
  | fuel + 1, cur =>
      let here := cur.skipGaps
      match here.peek with
      | some ',' | some ']' | some '\x7d' => .ok (.null, here)
      | _ => flowNode true 0 fuel here

def flowItems : Nat → Cursor → Scan (List Yaml × Cursor)
  | 0, cur => cur.refuse
  | fuel + 1, cur => do
      if cur.peek = some ']' then return ([], cur.next)
      let (item, behind) ← flowNode true 0 fuel cur
      let here := behind.skipGaps
      let (item, here) ← if here.peek = some ':' then do
          let (value, behind) ← flowValue fuel here.next
          pure (Yaml.map [(item, value)], behind.skipGaps)
        else pure (item, here)
      match here.peek with
      | some ',' =>
          let (items, last) ← flowItems fuel here.next.skipGaps
          return (item :: items, last)
      | some ']' => return ([item], here.next)
      | _ => here.refuse

def flowEntries : Nat → Cursor → Scan (List (Yaml × Yaml) × Cursor)
  | 0, cur => cur.refuse
  | fuel + 1, cur => do
      if cur.peek = some '\x7d' then return ([], cur.next)
      let (key, behind) ← flowNode true 0 fuel cur
      if !key.isPlain then cur.refuse
      let here := behind.skipGaps
      let (value, here) ← if here.peek = some ':' then do
          let (value, behind) ← flowValue fuel here.next
          pure (value, behind.skipGaps)
        else pure (Yaml.null, here)
      match here.peek with
      | some ',' =>
          let (entries, last) ← flowEntries fuel here.next.skipGaps
          return ((key, value) :: entries, last)
      | some '\x7d' => return ([(key, value)], here.next)
      | _ => here.refuse

end

/-! ## Block style -/

/-- A key on a single line with its colon; the place is behind the colon. -/
def key? (cur : Cursor) : Option (Yaml × Cursor) :=
  let size := cur.rest.length
  let line := cur.rest.takeWhile (· ≠ '\n')
  match flowNode false 0 (size + 1) { cur with rest := line } with
  | .ok (key, behind) =>
      let here := behind.skipBlanks
      if beginsWithMark ':' here.rest then
        let length := line.length - here.rest.length + 1
        some (key, cur.skip length)
      else none
  | .error _ => none

/-- A value on the line it begins on; nothing may follow it there. -/
def inlineNode (column : Nat) (fuel : Nat) (cur : Cursor) : Scan (Yaml × Cursor) := do
  let (value, behind) ←
    match cur.rest with
    | '|' :: _ => do
        let (text, behind) ← blockFrom false column cur.next
        pure (Yaml.str text, behind)
    | '>' :: _ => do
        let (text, behind) ← blockFrom true column cur.next
        pure (Yaml.str text, behind)
    | _ => do
        let (value, behind) ← flowNode false column fuel cur
        if behind.lineIsDone then pure (value, behind) else behind.refuse
  return (value, behind.skipGaps)

mutual

/-- A value whose first token is here, inside a block that is less indented; `inner` is the
first column inside. -/
def blockNode (inner : Nat) : Nat → Cursor → Scan (Yaml × Cursor)
  | 0, cur => cur.refuse
  | fuel + 1, cur =>
      if beginsWithMark '-' cur.rest then do
        let (items, cur) ← blockItems cur.column fuel cur
        return (.seq items, cur)
      else if (key? cur).isSome then do
        let (entries, cur) ← blockEntries cur.column fuel cur
        return (.map entries, cur)
      else inlineNode inner fuel cur

def blockItems (column : Nat) : Nat → Cursor → Scan (List Yaml × Cursor)
  | 0, cur => cur.refuse
  | fuel + 1, cur => do
      let behind := cur.next
      let (item, here) ←
        if behind.lineIsDone then
          let here := behind.skipGaps
          if here.atEnd || here.column ≤ column then pure (Yaml.null, here)
          else blockNode (column + 1) fuel here
        else blockNode (column + 1) fuel behind.skipBlanks
      if here.atEnd || here.column < column then return ([item], here)
      if here.column = column then
        if beginsWithMark '-' here.rest then
          let (items, last) ← blockItems column fuel here
          return (item :: items, last)
        else return ([item], here)
      else here.refuse

def blockEntries (column : Nat) : Nat → Cursor → Scan (List (Yaml × Yaml) × Cursor)
  | 0, cur => cur.refuse
  | fuel + 1, cur => do
      match key? cur with
      | none => cur.refuse
      | some (key, behind) =>
          if !key.isPlain then cur.refuse
          let (value, here) ←
            if behind.lineIsDone then
              let here := behind.skipGaps
              if here.atEnd || here.column < column then pure (Yaml.null, here)
              else if here.column = column then
                if beginsWithMark '-' here.rest then do
                  let (items, last) ← blockItems column fuel here
                  pure (Yaml.seq items, last)
                else pure (Yaml.null, here)
              else blockNode (column + 1) fuel here
            else inlineNode (column + 1) fuel behind.skipBlanks
          if here.atEnd || here.column < column then return ([(key, value)], here)
          if here.column = column then
            let (entries, last) ← blockEntries column fuel here
            return ((key, value) :: entries, last)
          else here.refuse

end

/-! ## Documents -/

private def isMarker (marker : String) (line : List Char) : Bool :=
  line.take 3 = marker.toList && endsMark (line.drop 3)

private def isEmptyLine (line : List Char) : Bool :=
  match (line.dropWhile (· = ' ')).head? with
  | none => true
  | some c => c = '#'

def document (lines : List (List Char)) : Option (List (List Char)) :=
  let opened :=
    match lines.dropWhile isEmptyLine with
    | first :: rest =>
        if isMarker "---" first then (List.replicate 3 ' ' ++ first.drop 3) :: rest else lines
    | [] => []
  let own := opened.takeWhile fun line => !isMarker "..." line
  let after := (opened.drop own.length).drop 1
  if own.any (isMarker "---") || !after.all isEmptyLine then none else some own

/-- Line ends of every kind as one character. -/
def joinLineEnds : List Char → List Char
  | [] => []
  | '\r' :: '\n' :: rest => '\n' :: joinLineEnds rest
  | c :: rest => (if c = '\r' || c = '\u0085' then '\n' else c) :: joinLineEnds rest

def isAllowed (c : Char) : Bool :=
  let n := c.toNat
  c = '\t' || c = '\n' || c = '\r' || (0x20 ≤ n && n ≤ 0x7e) || n = 0x85 ||
    (0xa0 ≤ n && n ≤ 0xfffd) || 0x10000 ≤ n

/-- Reads a text that holds one document; an empty text holds nothing. -/
def read (text : String) : Scan Yaml := do
  let cs := match text.toList with
    | '\ufeff' :: rest => rest
    | cs => cs
  let start : Cursor := { rest := cs }
  if !cs.all isAllowed then start.refuse
  match document (linesOf (joinLineEnds cs)) with
  | none => start.refuse
  | some lines =>
      let body := (lines.intersperse ['\n']).flatten
      let cur := Cursor.skipGaps { rest := body }
      if cur.atEnd then return .null
      let (value, last) ← blockNode 0 (2 * body.length + 4) cur
      if last.atEnd then return value else last.refuse

end Gleaner.Yaml
