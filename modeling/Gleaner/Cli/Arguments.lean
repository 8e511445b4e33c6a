import Gleaner.Entries

/-!
# Arguments of a command line

Options may stand before, between and behind the arguments of a command. A long option takes
its value behind an equals sign or as the next argument; short options may be written together,
and the last of them may take the rest as its value. Two dashes end the options.
-/

set_option autoImplicit false

namespace Gleaner.Cli

/-- An option by its names, the first of which it is known under. -/
structure OptionSpec where
  name : String
  short : Option Char := none
  takesValue : Bool := true

/-- A command by its number of arguments and its options. -/
structure CommandSpec where
  arguments : Nat := 0
  options : List OptionSpec := []

inductive Halt where
  /-- The arguments are not those of any command. -/
  | misused
  /-- Help is all that was asked for. -/
  | help
  deriving DecidableEq, Repr

def helpOption : OptionSpec := { name := "--help", takesValue := false }

/-- The arguments of a command and the values of its options; one without a value is present. -/
structure Parsed where
  arguments : List String := []
  options : Entries (Option String) := []
  deriving Repr

namespace Parsed

def add (option : OptionSpec) (value : Option String) (parsed : Parsed) : Parsed :=
  { parsed with options := Entries.put option.name value parsed.options }

def has (name : String) (parsed : Parsed) : Bool := Entries.has name parsed.options

def value? (name : String) (parsed : Parsed) : Option String :=
  ((Entries.find? name parsed.options).bind id).filter (· ≠ "")

end Parsed

namespace CommandSpec

variable (spec : CommandSpec)

def all : List OptionSpec := helpOption :: spec.options

def long? (name : String) : Option OptionSpec := spec.all.find? (·.name = name)

def short? (c : Char) : Option OptionSpec := spec.all.find? (·.short = some c)

/-- An option that was met, and whether the next argument is its value. -/
inductive Met where
  | done (parsed : Parsed)
  | needsValue (option : OptionSpec) (parsed : Parsed)

def shortOptions (parsed : Parsed) : List Char → Except Halt Met
  | [] => .ok (.done parsed)
  | c :: rest =>
      match spec.short? c with
      | none => .error .misused
      | some option =>
          if !option.takesValue then shortOptions (parsed.add option none) rest
          else if rest.isEmpty then .ok (.needsValue option parsed)
          else .ok (.done (parsed.add option (some (String.ofList rest))))

def option (parsed : Parsed) (arg : String) : Except Halt Met :=
  let name := String.ofList (arg.toList.takeWhile (· ≠ '='))
  let value := if name = arg then none else some (arg.drop (name.length + 1)).toString
  match spec.long? name, value with
  | some option, none =>
      if option.takesValue then .ok (.needsValue option parsed)
      else .ok (.done (parsed.add option none))
  | some option, some value =>
      if option.takesValue then .ok (.done (parsed.add option (some value)))
      else .error .misused
  | none, _ =>
      if arg.startsWith "--" then .error .misused
      else spec.shortOptions parsed (arg.toList.drop 1)

def looksLikeOption (arg : String) : Bool :=
  arg.startsWith "-" && arg ≠ "-"

def scan (parsed : Parsed) : List String → Except Halt Parsed
  | [] => .ok parsed
  | arg :: rest =>
      if arg = "--" then .ok { parsed with arguments := parsed.arguments ++ rest }
      else if looksLikeOption arg then
        match spec.option parsed arg with
        | .error halt => .error halt
        | .ok (.done parsed) => scan parsed rest
        | .ok (.needsValue option parsed) =>
            match rest with
            | [] => .error .misused
            | value :: rest => scan (parsed.add option (some value)) rest
      else scan { parsed with arguments := parsed.arguments ++ [arg] } rest

/-- The arguments and options of a command; all arguments must be there. -/
def parse (args : List String) : Except Halt Parsed := do
  let parsed ← spec.scan {} args
  if parsed.has helpOption.name then throw .help
  if parsed.arguments.length ≠ spec.arguments then throw .misused
  return parsed

end CommandSpec

/-- The name of the command in a group, and the arguments behind it. -/
def commandIn (args : List String) : Except Halt (String × List String) :=
  match args with
  | [] => .error .misused
  | "--" :: name :: rest => .ok (name, rest)
  | name :: rest =>
      if name = helpOption.name then .error .help
      else if CommandSpec.looksLikeOption name then .error .misused
      else .ok (name, rest)

end Gleaner.Cli
