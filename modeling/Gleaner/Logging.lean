import Gleaner.Fault
import Gleaner.Settings.Basic

/-!
# Logging

Which records are kept and how they are written: always on the console, and in a file if one
is given. Levels are named in any case; a name that is unknown means the usual level.
-/

set_option autoImplicit false

namespace Gleaner

abbrev Severity := Nat

namespace Severity

def debug : Severity := 10

def info : Severity := 20

def warning : Severity := 30

def names : List (String × Severity) :=
  [("NOTSET", 0), ("DEBUG", debug), ("INFO", info), ("WARN", warning), ("WARNING", warning),
    ("ERROR", 40), ("CRITICAL", 50), ("FATAL", 50)]

def upperCase (c : Char) : Char :=
  if c = 'ı' then 'I' else if c = 'ſ' then 'S' else c.toUpper

/-- What a reserved name stands for; it is no level. -/
def basicFormat : String := "%(levelname)s:%(name)s:%(message)s"

def ofName (name : String) : Except Fault Severity :=
  let name := String.ofList (name.toList.map upperCase)
  if name = "BASIC_FORMAT" then
    .error (.foreign "ValueError" ("Unknown level: " ++ Text.quoted basicFormat))
  else .ok ((Entries.find? name names).getD info)

end Severity

inductive LogTarget where
  | console
  | file (format : String)
  deriving DecidableEq, Repr

structure LogHandler where
  target : LogTarget
  level : Severity
  deriving DecidableEq, Repr

structure Logging where
  level : Severity
  handlers : List LogHandler
  /-- The level below which the records of the transport are dropped; none when debugging. -/
  transport : Severity
  deriving DecidableEq, Repr

namespace Logging

def textFormat : String := "%(asctime)s - %(name)s - %(levelname)s - %(message)s"

def jsonFormat : String :=
  "\x7b\"time\": \"%(asctime)s\", \"level\": \"%(levelname)s\", \"name\": \"%(name)s\", " ++
    "\"message\": \"%(message)s\"\x7d"

def configure (levelName : String) (toFile asJson : Bool) : Except Fault Logging := do
  let level ← Severity.ofName levelName
  let file : List LogHandler :=
    if toFile then [⟨.file (if asJson then jsonFormat else textFormat), level⟩] else []
  return {
    level
    handlers := ⟨.console, level⟩ :: file
    transport := if Severity.debug < level then Severity.warning else 0 }

end Logging

end Gleaner
