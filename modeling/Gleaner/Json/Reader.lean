import Gleaner.Decimal.Binary
import Gleaner.Json.Value

/-!
# Reading JSON

A reader of JSON texts that says where and why a text is refused. It works on the rest of
the text, and a refusal carries how much was left, from which `ReadError` computes line and
column. The names `NaN`, `Infinity` and `-Infinity` are numbers; of two fields with one key
the later value is kept at the earlier place.
-/

set_option autoImplicit false

namespace Gleaner.Json

inductive Refusal where
  | expectingValue
  | expectingName
  | expectingColon
  | expectingComma
  | unterminatedText
  | controlCharacter
  | invalidEscape
  | invalidUnit
  | extraText
  | byteOrderMark
  deriving DecidableEq, Repr

def Refusal.message : Refusal → String
  | .expectingValue => "Expecting value"
  | .expectingName => "Expecting property name enclosed in double quotes"
  | .expectingColon => "Expecting ':' delimiter"
  | .expectingComma => "Expecting ',' delimiter"
  | .unterminatedText => "Unterminated string starting at"
  | .controlCharacter => "Invalid control character at"
  | .invalidEscape => "Invalid \\escape"
  | .invalidUnit => "Invalid \\uXXXX escape"
  | .extraText => "Extra data"
  | .byteOrderMark => "Unexpected UTF-8 BOM (decode using utf-8-sig)"

/-- A refusal and the number of characters that were left where it arose. -/
structure Stop where
  refusal : Refusal
  left : Nat
  deriving Repr

def stop {α : Type} (refusal : Refusal) (rest : List Char) : Except Stop α :=
  .error ⟨refusal, rest.length⟩

def isGap (c : Char) : Bool :=
  c = ' ' || c = '\t' || c = '\n' || c = '\r'

def skipGap (cs : List Char) : List Char :=
  cs.dropWhile isGap

def hexValue? (c : Char) : Option Nat :=
  if '0' ≤ c && c ≤ '9' then some (c.toNat - '0'.toNat)
  else if 'a' ≤ c && c ≤ 'f' then some (c.toNat - 'a'.toNat + 10)
  else if 'A' ≤ c && c ≤ 'F' then some (c.toNat - 'A'.toNat + 10)
  else none

def unitValue? (a b c d : Char) : Option Nat := do
  let a ← hexValue? a
  let b ← hexValue? b
  let c ← hexValue? c
  let d ← hexValue? d
  return ((a * 16 + b) * 16 + c) * 16 + d

def isHighUnit (n : Nat) : Bool := 0xD800 ≤ n && n ≤ 0xDBFF

def isLowUnit (n : Nat) : Bool := 0xDC00 ≤ n && n ≤ 0xDFFF

/-- What stands for half of a pair whose other half is missing. -/
def loneUnit : Char := '\uFFFD'

/-- The characters read so far, last first, and the first half of a pair that waits for the
second one. -/
structure Draft where
  done : List Char
  waiting : Option Nat := none

/-- The characters with a waiting half given up. -/
def Draft.settled (draft : Draft) : List Char :=
  if draft.waiting.isSome then loneUnit :: draft.done else draft.done

def Draft.push (c : Char) (draft : Draft) : Draft :=
  ⟨c :: draft.settled, none⟩

/-- Takes in a unit: the second half of a pair joins the first one. -/
def Draft.pushUnit (n : Nat) (draft : Draft) : Draft :=
  match draft.waiting with
  | some high =>
      if isLowUnit n then
        ⟨Char.ofNat (0x10000 + (high - 0xD800) * 0x400 + (n - 0xDC00)) :: draft.done, none⟩
      else if isHighUnit n then ⟨draft.settled, some n⟩
      else draft.push (Char.ofNat n)
  | none =>
      if isHighUnit n then ⟨draft.done, some n⟩
      else if isLowUnit n then draft.push loneUnit
      else draft.push (Char.ofNat n)

def simpleEscape? : Char → Option Char
  | '"' => some '"'
  | '\\' => some '\\'
  | '/' => some '/'
  | 'b' => some '\x08'
  | 'f' => some '\x0c'
  | 'n' => some '\n'
  | 'r' => some '\r'
  | 't' => some '\t'
  | _ => none

/-- The rest of a text whose opening quote has been read; `opening` is what was left at that
quote. -/
def scanText (opening : Nat) (draft : Draft) : List Char → Except Stop (String × List Char)
  | [] => .error ⟨.unterminatedText, opening⟩
  | '"' :: rest => .ok (String.ofList draft.settled.reverse, rest)
  | ['\\'] => .error ⟨.unterminatedText, opening⟩
  | '\\' :: 'u' :: a :: b :: c :: d :: rest =>
      match unitValue? a b c d with
      | none => .error ⟨.invalidUnit, rest.length + 5⟩
      | some n =>
          if rest.isEmpty then .error ⟨.invalidUnit, rest.length + 5⟩
          else scanText opening (draft.pushUnit n) rest
  | '\\' :: 'u' :: rest => .error ⟨.invalidUnit, rest.length + 1⟩
  | '\\' :: c :: rest =>
      match simpleEscape? c with
      | some c => scanText opening (draft.push c) rest
      | none => .error ⟨.invalidEscape, rest.length + 2⟩
  | c :: rest =>
      if c.toNat < 32 then .error ⟨.controlCharacter, rest.length + 1⟩
      else scanText opening (draft.push c) rest

def isAsciiDigit (c : Char) : Bool := '0' ≤ c && c ≤ '9'

def naturalOf (digits : List Char) : Nat :=
  digits.foldl (fun n c => n * 10 + (c.toNat - '0'.toNat)) 0

/-- The digits of the fraction, if a point and a digit follow. -/
def scanFraction : List Char → List Char × List Char
  | '.' :: d :: rest =>
      if isAsciiDigit d then (d :: rest.takeWhile isAsciiDigit, rest.dropWhile isAsciiDigit)
      else ([], '.' :: d :: rest)
  | cs => ([], cs)

def scanPower (negative : Bool) (whole cs : List Char) : Option Int × List Char :=
  match cs.takeWhile isAsciiDigit with
  | [] => (none, whole)
  | digits =>
      let size : Int := naturalOf digits
      (some (if negative then -size else size), cs.dropWhile isAsciiDigit)

/-- The power of ten, if a mark and a digit follow. -/
def scanExponent : List Char → Option Int × List Char
  | [] => (none, [])
  | e :: rest =>
      if e = 'e' || e = 'E' then
        match rest with
        | '-' :: after => scanPower true (e :: rest) after
        | '+' :: after => scanPower false (e :: rest) after
        | _ => scanPower false (e :: rest) rest
      else (none, e :: rest)

/-- A number without its sign: an integer unless a fraction or a power follows. -/
def scanNumber (negative : Bool) (cs : List Char) : Option (Json × List Char) :=
  let whole :=
    match cs with
    | '0' :: _ => ['0']
    | _ => cs.takeWhile isAsciiDigit
  if whole.isEmpty then none
  else
    let (fraction, afterFraction) := scanFraction (cs.drop whole.length)
    let (power, rest) := scanExponent afterFraction
    if fraction.isEmpty && power.isNone then
      let size : Int := naturalOf whole
      some (.int (if negative then -size else size), rest)
    else
      let power := power.getD 0 - fraction.length
      some (.float (Decimal.scaled negative (naturalOf (whole ++ fraction)) power), rest)

def scanWord (cs : List Char) : Except Stop (Json × List Char) :=
  match cs with
  | 'n' :: 'u' :: 'l' :: 'l' :: rest => .ok (.null, rest)
  | 't' :: 'r' :: 'u' :: 'e' :: rest => .ok (.bool true, rest)
  | 'f' :: 'a' :: 'l' :: 's' :: 'e' :: rest => .ok (.bool false, rest)
  | 'N' :: 'a' :: 'N' :: rest => .ok (.float (0.0 / 0.0), rest)
  | 'I' :: 'n' :: 'f' :: 'i' :: 'n' :: 'i' :: 't' :: 'y' :: rest => .ok (.float (1.0 / 0.0), rest)
  | '-' :: 'I' :: 'n' :: 'f' :: 'i' :: 'n' :: 'i' :: 't' :: 'y' :: rest =>
      .ok (.float (-1.0 / 0.0), rest)
  | '-' :: rest => (scanNumber true rest).elim (stop .expectingValue cs) .ok
  | _ => (scanNumber false cs).elim (stop .expectingValue cs) .ok

mutual

/-- A value at the start of the characters; `fuel` bounds its depth and length. -/
def scanValue : Nat → List Char → Except Stop (Json × List Char)
  | 0, cs => stop .expectingValue cs
  | fuel + 1, cs =>
      match cs with
      | '"' :: rest => do
          let (text, rest) ← scanText cs.length ⟨[], none⟩ rest
          return (.str text, rest)
      | '[' :: rest =>
          match skipGap rest with
          | ']' :: rest => .ok (.arr [], rest)
          | rest => do
              let (items, rest) ← scanItems fuel rest
              return (.arr items, rest)
      | '{' :: rest =>
          match skipGap rest with
          | '}' :: rest => .ok (.obj [], rest)
          | rest => do
              let (fields, rest) ← scanFields fuel rest
              return (.obj (Entries.ofPairs fields), rest)
      | _ => scanWord cs

/-- The items of a list up to and with its closing bracket. -/
def scanItems : Nat → List Char → Except Stop (List Json × List Char)
  | 0, cs => stop .expectingValue cs
  | fuel + 1, cs => do
      let (item, rest) ← scanValue fuel cs
      match skipGap rest with
      | ']' :: rest => return ([item], rest)
      | ',' :: rest => do
          let (items, rest) ← scanItems fuel (skipGap rest)
          return (item :: items, rest)
      | rest => stop .expectingComma rest

/-- The fields of an object up to and with its closing brace. -/
def scanFields : Nat → List Char → Except Stop (List (String × Json) × List Char)
  | 0, cs => stop .expectingName cs
  | fuel + 1, cs =>
      match cs with
      | '"' :: rest => do
          let (key, rest) ← scanText cs.length ⟨[], none⟩ rest
          match skipGap rest with
          | ':' :: rest => do
              let (value, rest) ← scanValue fuel (skipGap rest)
              match skipGap rest with
              | '}' :: rest => return ([(key, value)], rest)
              | ',' :: rest => do
                  let (fields, rest) ← scanFields fuel (skipGap rest)
                  return ((key, value) :: fields, rest)
              | rest => stop .expectingComma rest
          | rest => stop .expectingColon rest
      | _ => stop .expectingName cs

end

def scanAll (cs : List Char) : Except Stop Json :=
  match cs with
  | '\uFEFF' :: _ => stop .byteOrderMark cs
  | _ => do
      let (value, rest) ← scanValue (cs.length + 1) (skipGap cs)
      match skipGap rest with
      | [] => return value
      | rest => stop .extraText rest

/-- A refusal and the place it arose at, counted in characters from zero. -/
structure ReadError where
  refusal : Refusal
  position : Nat
  line : Nat
  column : Nat
  deriving Repr

def ReadError.message (e : ReadError) : String :=
  e.refusal.message ++ s!": line {e.line} column {e.column} (char {e.position})"

private def ReadError.at (cs : List Char) (stop : Stop) : ReadError :=
  let position := cs.length - stop.left
  let before := cs.take position
  { refusal := stop.refusal
    position
    line := before.count '\n' + 1
    column := (before.reverse.takeWhile (· ≠ '\n')).length + 1 }

def read (text : String) : Except ReadError Json :=
  match scanAll text.toList with
  | .ok value => .ok value
  | .error stop => .error (.at text.toList stop)

end Gleaner.Json
