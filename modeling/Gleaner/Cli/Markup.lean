import Gleaner.Fault

/-!
# Markup of the console

Text for the console carries styles in brackets: a name opens a style, a slash closes it. What
is shown is the text without them. A backslash keeps a bracket; brackets that hold no style
stand for themselves; closing what is not open is a fault.
-/

set_option autoImplicit false

namespace Gleaner.Cli.Markup

/-- A part of a marked-up text; a style knows where it begins. -/
inductive Part where
  | text (chars : List Char)
  /-- What stands for itself whatever is around it. -/
  | kept (chars : List Char)
  | style (position : Nat) (content : String)

/-- The style in a bracket that has been opened, and the rest behind it. -/
def bracket? (cs : List Char) : Option (List Char × List Char) :=
  match cs with
  | c :: rest =>
      if ('a' ≤ c && c ≤ 'z') || c = '#' || c = '/' || c = '@' then
        let content := rest.takeWhile fun c => c ≠ '[' && c ≠ ']'
        match rest.drop content.length with
        | ']' :: behind => some (c :: content, behind)
        | _ => none
      else none
  | [] => none

/-- The parts of a text; `position` counts characters from its beginning. -/
def partsFrom (position : Nat) : Nat → List Char → List Part
  | 0, _ => []
  | _, [] => []
  | fuel + 1, c :: rest =>
      let cs := c :: rest
      let slashes := (cs.takeWhile (· = '\\')).length
      let behind := cs.drop slashes
      let style? := match behind with
        | '[' :: inner => bracket? inner
        | _ => none
      match style? with
      | some (content, after) =>
          let length := slashes + content.length + 2
          let part := if slashes % 2 = 1 then Part.kept ('[' :: content ++ [']'])
            else .style (position + slashes) (String.ofList content)
          .kept (List.replicate (slashes / 2) '\\') :: part ::
            partsFrom (position + length) fuel after
      | none =>
          let taken := max 1 slashes
          .text (cs.take taken) :: partsFrom (position + taken) fuel (cs.drop taken)

def longNames : List (String × String) :=
  [("b", "bold"), ("d", "dim"), ("i", "italic"), ("u", "underline"), ("r", "reverse"),
    ("c", "conceal"), ("s", "strike"), ("uu", "underline2"), ("o", "overline")]

/-- The name of a style by which an end finds its beginning. -/
def styleName (name : String) : String :=
  let name := (Text.strip name).toLower
  (Entries.find? name longNames).getD name

/-- A style's name, and what is said of it behind an equals sign. -/
def split (content : String) : String × Option String :=
  let name := String.ofList (content.toList.takeWhile (· ≠ '='))
  if name = content then (name, none) else (name, some (content.drop (name.length + 1)).toString)

private def markupFault (text : String) : Fault := .foreign "MarkupError" text

def close? (name : String) : List String → Option (List String)
  | [] => none
  | inner :: outer =>
      if inner = name then some outer else (close? name outer).map (inner :: ·)

/-- The open styles behind a style, innermost first. -/
def step (position : Nat) (content : String) (opened : List String) :
    Except Fault (List String) :=
  let (name, value) := split content
  if name.startsWith "/" then
    let closed := Text.strip (name.drop 1).toString
    if closed = "" then
      match opened with
      | _ :: outer => .ok outer
      | [] =>
          .error (markupFault s!"closing tag '[/]' at position {position} has nothing to close")
    else
      match close? (styleName closed) opened with
      | some outer => .ok outer
      | none =>
          let shown := "[" ++ name ++ (value.map ("=" ++ ·)).getD "" ++ "]"
          .error (markupFault
            ("closing tag '" ++ shown ++ s!"' at position {position} doesn't match any open tag"))
  else .ok (styleName name :: opened)

/-- Brackets that were kept by a backslash outside of styles. -/
def unescape : List Char → List Char
  | [] => []
  | '\\' :: '[' :: rest => '[' :: unescape rest
  | c :: rest => c :: unescape rest

def gather : List Part → List Part
  | .text a :: rest =>
      match gather rest with
      | .text b :: rest => .text (a ++ b) :: rest
      | rest => .text a :: rest
  | part :: rest => part :: gather rest
  | [] => []

def showParts (opened : List String) : List Part → Except Fault (List Char)
  | [] => .ok []
  | .text chars :: rest => do return unescape chars ++ (← showParts opened rest)
  | .kept chars :: rest => do return chars ++ (← showParts opened rest)
  | .style position content :: rest => do showParts (← step position content opened) rest

def isControl (c : Char) : Bool :=
  c = '\x07' || c = '\x08' || c = '\x0b' || c = '\x0c' || c = '\x0d'

def plain (text : String) : Except Fault String := do
  let parts := gather (partsFrom 0 (text.length + 1) text.toList)
  return String.ofList ((← showParts [] parts).filter fun c => !isControl c)

end Gleaner.Cli.Markup
