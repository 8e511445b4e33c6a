import Gleaner.Files
import Gleaner.Settings.EnvironmentFile
import Gleaner.Yaml.Reader

/-!
# Loading settings

Settings come from a configuration file, the environment and what is asked for explicitly,
which wins in the opposite order. The files are given as texts under their paths.
-/

set_option autoImplicit false

namespace Gleaner

/-- Where settings are to be taken from. -/
structure SettingsSource where
  /-- The configuration file; without it the usual places are tried. -/
  path : Option String := none
  /-- The environment file; without it the usual places are tried. -/
  environmentFile : Option String := none
  overrides : Fields := []

namespace SettingsSource

def usualPaths : List String := ["recipe-agent.yaml", "config.yaml", "config.yml"]

def usualEnvironmentFiles : List String := [".env", ".env.local"]

def environment (files : Files) (env : Environment) (source : SettingsSource) : Environment :=
  let found := match source.environmentFile with
    | some path => files.text? path
    | none => usualEnvironmentFiles.findSome? files.text?
  match found with
  | some text => EnvironmentFile.load text env
  | none => env

/-- The fields of a configuration file, which must be a mapping or empty. -/
def readConfiguration (path text : String) : Except Fault Fields :=
  let refused (message : String) : Except Fault Fields :=
    .error (.plain .configuration message [])
  match Yaml.read text with
  | .error place =>
      refused (s!"Invalid YAML in {path}: line {place.line}, column {place.column + 1}")
  | .ok .null => .ok []
  | .ok (.map entries) =>
      if entries.all (·.1.isText) then .ok (Entries.ofPairs (Yaml.entriesToJson entries))
      else .error (.foreign "TypeError" "keywords must be strings")
  | .ok _ => refused ("Config file " ++ path ++ " must contain a mapping")

def configuration (files : Files) (source : SettingsSource) : Except Fault Fields :=
  match source.path with
  | some path =>
      let path := normalPath path
      match files.text? path with
      | some text => readConfiguration path text
      | none =>
          .error (.plain .configuration ("Config file not found: " ++ path) [("path", .str path)])
  | none =>
      match usualPaths.find? fun path => (files.text? path).isSome with
      | some path => readConfiguration path ((files.text? path).getD "")
      | none => .ok []

end SettingsSource

/-- The settings, and the variables of the process after the environment file was read. -/
def Settings.load (files : Files) (env : Environment) (source : SettingsSource) :
    Except Fault (Settings × Environment) := do
  let env := source.environment files env
  let settings ← Settings.read env (← source.configuration files)
  if source.overrides.isEmpty then return (settings, env)
  return (← settings.mergeWith env source.overrides, env)

end Gleaner
