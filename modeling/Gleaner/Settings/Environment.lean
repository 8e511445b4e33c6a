import Gleaner.Fault
import Gleaner.Json.Merge
import Gleaner.Json.Reader
import Gleaner.Settings.Wire
import Gleaner.Text.LowerCase

/-!
# Settings from the environment

A variable names a section, whose value is JSON, or a setting of a section; names do not heed
case. Where both are given the single setting wins. Given fields win over the environment, and
defaults stand behind both.
-/

set_option autoImplicit false

namespace Gleaner

abbrev Environment := Entries String

namespace Environment

/-- What the names of variables begin with, and what parts them. -/
def opening : String := "recipe_agent__"

def divider : String := "__"

def lower (text : String) : String :=
  String.ofList (text.toList.map Text.lowerCase)

/-- The variables under lower-case names; of names that meet, the later counts. -/
def lowered (env : Environment) : Environment :=
  Entries.ofPairs (env.map fun (name, value) => (lower name, value))

/-- The single settings of a section: each variable is a path of keys. -/
def leaves (group : String) (env : Environment) : Fields :=
  let start := opening ++ group ++ divider
  env.foldl (fun fields (name, value) =>
    if name.startsWith start then
      Fields.putAt (.str value) ((name.drop start.length).toString.splitOn divider) fields
    else fields) []

/-- Keys that differ from a known name only in case, as that name. -/
def nameKeys (known : List String) (fields : Fields) : Fields :=
  Entries.ofPairs (fields.map fun (key, value) =>
    ((known.find? fun name => name = lower key).getD key, value))

/-- The value of a section; nothing when no variable is about it, or when it is null. -/
def section? (name : String) (known : List String) (env : Environment) :
    Except Fault (Option Json) :=
  let single := leaves name env
  match Entries.find? (opening ++ name) env with
  | none => .ok (if single.isEmpty then none else some (.obj (nameKeys known single)))
  | some text =>
      match Json.read text with
      | .error _ =>
          .error (.foreign "SettingsError"
            ("error parsing value for field \"" ++ name ++ "\" from source \"EnvSettingsSource\""))
      | .ok (.obj fields) => .ok (some (.obj (nameKeys known (Fields.merge fields single))))
      | .ok .null => .ok none
      | .ok value => .ok (some value)

end Environment

namespace Settings

def sections : List (String × List String) :=
  let usual : Settings := {}
  usual.toFields Secret.shown |>.filterMap fun (name, value) =>
    value.asFields?.map fun fields => (name, Entries.keys fields)

def environmentFields (env : Environment) : Except Fault Fields := do
  let env := env.lowered
  let found ← sections.mapM fun (name, known) => do
    return (← env.section? name known).map (name, ·)
  let debug := (Entries.find? (Environment.opening ++ "debug") env).map fun value =>
    ("debug", Json.str value)
  return found.filterMap id ++ debug.toList

/-- The settings of given fields, over those of the environment. -/
def read (env : Environment) (given : Fields) : Except Fault Settings := do
  let below ← environmentFields env
  match Settings.ofFields (Fields.merge below given) with
  | .ok settings => return settings
  | .error problems => throw (.malformed "Settings" problems)

def mergeWith (env : Environment) (overrides : Fields) (settings : Settings) :
    Except Fault Settings :=
  read env (Fields.merge (settings.toFields Secret.text) overrides)

end Settings

end Gleaner
