import Gleaner.Settings.Environment
import Gleaner.Text.Blank

/-!
# Environment files

Lines `NAME=value` that stand in for variables of the process. A value may be quoted, and then
go over lines and have escapes; otherwise it ends at a remark. A variable in braces behind a
dollar is replaced by its value. A line that is none of this is passed over.
-/

set_option autoImplicit false

namespace Gleaner.EnvironmentFile

/-! ## Lines -/

/-- A name with its value; a name without an equals sign has none. -/
structure Line where
  name : String
  value : Option String

private def isGap (c : Char) : Bool := Text.isBlank c && c ≠ '\n'

private def afterGap (cs : List Char) : List Char := cs.dropWhile isGap

/-- The rest behind a remark, if one stands here, and the end of the line; nothing when
something else is left on it. -/
def afterLine (cs : List Char) : Option (List Char) :=
  let rest := afterGap cs
  let rest := if rest.head? = some '#' then rest.dropWhile (· ≠ '\n') else rest
  match rest with
  | [] => some []
  | '\n' :: rest => some rest
  | _ => none

def afterExport (cs : List Char) : List Char :=
  let word := "export".toList
  let rest := cs.drop word.length
  if word.isPrefixOf cs && rest.head?.any isGap then afterGap rest else cs

def toPlainQuote (quote : Char) : List Char → Option (List Char × List Char)
  | [] => none
  | [c] => if c = quote then some ([], []) else none
  | c :: next :: rest =>
      if c = quote then some ([], next :: rest)
      else if c = '\\' && next = quote then
        (toPlainQuote quote rest).map fun (text, rest) => (c :: next :: text, rest)
      else (toPlainQuote quote (next :: rest)).map fun (text, rest) => (c :: text, rest)

def toLastQuote (quote : Char) (cs : List Char) : Option (List Char × List Char) :=
  let after := (cs.reverse.takeWhile (· ≠ quote)).length
  if after = cs.length then none
  else some (cs.take (cs.length - after - 1), cs.drop (cs.length - after))

private def escape? (double : Bool) (c : Char) : Option Char :=
  match c with
  | '\\' => some '\\'
  | '\'' => some '\''
  | _ =>
      if !double then none
      else
        match c with
        | '"' => some '"'
        | 'a' => some '\x07'
        | 'b' => some '\x08'
        | 'f' => some '\x0c'
        | 'n' => some '\n'
        | 'r' => some '\r'
        | 't' => some '\t'
        | 'v' => some '\x0b'
        | _ => none

def unescape (double : Bool) : List Char → List Char
  | [] => []
  | [c] => [c]
  | c :: next :: rest =>
      match if c = '\\' then escape? double next else none with
      | some plain => plain :: unescape double rest
      | none => c :: unescape double (next :: rest)

/-- An unquoted value: up to a remark, without blanks at its end. -/
def plainValue : List Char → List Char
  | [] => []
  | c :: rest =>
      if isGap c && (rest.dropWhile isGap).head? = some '#' then []
      else c :: plainValue rest

def value (cs : List Char) : Option (String × List Char) :=
  let quotedBy (quote : Char) (rest : List Char) :=
    ((toPlainQuote quote rest).or (toLastQuote quote rest)).map fun (text, rest) =>
      (String.ofList (unescape (quote = '"') text), rest)
  match cs with
  | '\'' :: rest => quotedBy '\'' rest
  | '"' :: rest => quotedBy '"' rest
  | _ =>
      let line := cs.takeWhile (· ≠ '\n')
      some (Text.dropEnd Text.isBlank (String.ofList (plainValue line)), cs.drop line.length)

/-- A name and the rest behind it; an empty name where a remark stands. -/
def name? (cs : List Char) : Except (List Char) (String × List Char) :=
  match cs with
  | '#' :: _ => .ok ("", cs)
  | '\'' :: rest =>
      let name := rest.takeWhile (· ≠ '\'')
      let behind := rest.drop name.length
      if name.isEmpty || behind.isEmpty then .error cs
      else .ok (String.ofList name, behind.drop 1)
  | _ =>
      let name := cs.takeWhile fun c => c ≠ '=' && c ≠ '#' && !Text.isBlank c
      if name.isEmpty then .error cs else .ok (String.ofList name, cs.drop name.length)

/-- The line that begins here and the rest behind it; where no line can be made out, the rest
from where it went wrong. -/
def line? (cs : List Char) : Except (List Char) (Line × List Char) := do
  let (name, rest) ← name? (afterExport cs)
  let rest := afterGap rest
  let (given, rest) ←
    match rest with
    | '=' :: behind =>
        let here := afterGap behind
        match value here with
        | some (text, rest) => pure (some text, rest)
        | none => throw here
    | _ => pure (none, rest)
  match afterLine rest with
  | some rest => return (⟨name, given⟩, rest)
  | none => throw rest

def linesFrom : Nat → List Char → List Line
  | 0, _ => []
  | fuel + 1, cs =>
      match cs.dropWhile Text.isBlank with
      | [] => []
      | cs =>
          match line? cs with
          | .ok (line, rest) =>
              if line.name = "" then linesFrom fuel rest else line :: linesFrom fuel rest
          | .error rest => linesFrom fuel ((rest.dropWhile (· ≠ '\n')).drop 1)

def lines (text : String) : List Line :=
  linesFrom (text.length + 1) text.toList

/-! ## Variables in values -/

/-- A variable behind a dollar: its name, what stands for it when it is absent, and the rest. -/
def reference? (cs : List Char) : Option (String × String × List Char) :=
  match cs with
  | '$' :: '\x7b' :: inner =>
      let name := inner.takeWhile fun c => c ≠ '\x7d' && c ≠ ':'
      match inner.drop name.length with
      | '\x7d' :: rest => some (String.ofList name, "", rest)
      | ':' :: '-' :: more =>
          let default := more.takeWhile (· ≠ '\x7d')
          match more.drop default.length with
          | '\x7d' :: rest => some (String.ofList name, String.ofList default, rest)
          | _ => none
      | _ => none
  | _ => none

def expandFrom (known : String → Option String) : Nat → List Char → List Char
  | 0, cs => cs
  | _, [] => []
  | fuel + 1, c :: rest =>
      match reference? (c :: rest) with
      | some (name, default, rest) =>
          ((known name).getD default).toList ++ expandFrom known fuel rest
      | none => c :: expandFrom known fuel rest

def expand (known : String → Option String) (text : String) : String :=
  String.ofList (expandFrom known text.length text.toList)

/-- The variables of the lines; each may use those before it and those of the process, which
win. A name without a value counts as empty when it is used. -/
def values (env : Environment) (lines : List Line) : Entries (Option String) :=
  lines.foldl (fun found line =>
    let known (name : String) : Option String :=
      (Entries.find? name env).or ((Entries.find? name found).map (·.getD ""))
    Entries.put line.name (line.value.map (expand known)) found) []

/-- The variables of a process with those of a file added; none is changed. -/
def load (text : String) (env : Environment) : Environment :=
  env ++ (values env (lines text)).filterMap fun (name, value) =>
    if env.has name then none else value.map (name, ·)

end Gleaner.EnvironmentFile
