import Gleaner.Advisor.Basic
import Gleaner.Rehearsal.World

/-!
# Scripted models

A model that gives prepared answers in order and remembers what it was asked.
-/

set_option autoImplicit false

namespace Gleaner.Rehearsal

namespace ScriptedModel

def modelName : String := "fake-model"

def next (completion : Completion) (model : ScriptedModel) :
    Except Fault Reply × ScriptedModel :=
  let model := { model with calls := model.calls ++ [completion] }
  match model.answers with
  | [] => (.error (.foreign "RuntimeError" "no reply queued"), model)
  | answer :: answers => (answer, { model with answers })

def reply (content : String) (tokens : Number) : Reply :=
  { content, model := modelName, usage := { total := tokens } }

end ScriptedModel

def scripted (part : World → ScriptedModel) (put : ScriptedModel → World → World) :
    Model World :=
  { name := "fake"
    defaultModel := ScriptedModel.modelName
    complete := fun completion world =>
      let (answer, model) := (part world).next completion
      (answer, put model world)
    healthy := fun world => (.ok world.healthy, world) }

def adviceModel : Model World :=
  scripted World.advice fun model world => { world with advice := model }

def jobModel : Model World :=
  scripted World.jobs fun model world => { world with jobs := model }

def advisor (settings : BindingSettings) (modelName : Option String) (retry : RetryPolicy) :
    Advisor World :=
  { model := adviceModel
    clock := Rehearsal.clock
    settings
    modelName
    retry
    note := fun change world => { world with tally := change world.tally } }

end Gleaner.Rehearsal
