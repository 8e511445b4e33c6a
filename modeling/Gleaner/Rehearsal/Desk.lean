import Gleaner.Cli.Desk
import Gleaner.Rehearsal.Script

/-!
# Rehearsed desks

A desk whose files, variables and console are those of a world. The first model that is asked
for is the one that advises, the next the one that structures items; the browser shows the
stage.
-/

set_option autoImplicit false

namespace Gleaner.Rehearsal

private def noted (name : String) (args : List Json) : Action World Unit :=
  modify (World.record name args)

def browser (settings : BrowserSettings) : Action World (Browser World) := do
  noted "browser" [.bool settings.headless]
  return {
    launch := do
      noted "launch" []
      match (← get).launchFault with
      | some fault => throw fault
      | none => pure ()
    openPage := return page
    close := noted "close" [] }

def nextModel (settings : ModelSettings) (name : Option String) : Action World (Model World) := do
  let name := match name.getD "" with
    | "" => settings.model
    | name => name
  noted "provider" [.str settings.baseUrl, .str name]
  let first := (← get).models.isEmpty
  modify fun world => { world with models := world.models ++ [(settings, name)] }
  return if first then adviceModel else jobModel

def desk : Cli.Desk World :=
  { clock
    home := "."
    environment := World.environment
    setEnvironment := fun environment world => { world with environment }
    files := World.files
    setFiles := fun files world => { world with files }
    print := fun line => modify fun world => { world with lines := world.lines ++ [line] }
    model := nextModel
    browser }

end Gleaner.Rehearsal
