import Gleaner.Advisor.Prompt
import Gleaner.Bindings.Complete
import Gleaner.Bindings.Validate
import Gleaner.Json.Embedded
import Gleaner.Json.Same
import Gleaner.Model
import Gleaner.Recipe.Wire
import Gleaner.Retry
import Gleaner.Run.Session

/-!
# Advisors

An advisor asks a model where things are on a page, and what a failing binding should be. The
answer is text: its first JSON object counts, and it is coerced, completed and checked like any
other record. Of an answer to a repair only the key that was asked for is taken, and only when
it differs from what is there.
-/

set_option autoImplicit false

namespace Gleaner

structure Tally where
  calls : Nat := 0
  failed : Nat := 0
  tokens : Number := .int 0

structure Advisor (σ : Type) where
  model : Model σ
  clock : Clock σ
  settings : BindingSettings := {}
  /-- A model other than the model's usual one. -/
  modelName : Option String := none
  retry : RetryPolicy
  /-- Changes the tally, which the world keeps. -/
  note : (Tally → Tally) → σ → σ

/-- A record that was discovered, and what is doubtful about it. -/
structure Discovery where
  bindings : PageBindings
  warnings : List String

/-- Faults of a model that pass: the ones worth another try. -/
def Fault.isTransient (fault : Fault) : Bool :=
  fault.isA .modelConnection || fault.isA .rateLimit

namespace Advisor

/-- The usual policy: three tries, for faults that pass. -/
def defaultRetry : RetryPolicy := { retryOn := Fault.isTransient }

def limits (settings : BindingSettings) : PromptLimits :=
  { maxSnapshotChars := settings.maxSnapshotChars
    maxRepairContextChars := settings.maxRepairContextChars }

variable {σ : Type} (advisor : Advisor σ)

def ask (prompt : Prompt) : Action σ String := do
  let completion : Completion :=
    { messages := [⟨.system, prompt.system⟩, ⟨.user, prompt.user⟩]
      model := advisor.modelName }
  modify (advisor.note fun tally => { tally with calls := tally.calls + 1 })
  let reply ← tryCatch
    (advisor.retry.run advisor.clock.pause (fun _ _ => return ())
      (advisor.model.complete completion))
    fun fault => do
      modify (advisor.note fun tally => { tally with failed := tally.failed + 1 })
      throw fault
  modify (advisor.note fun tally => { tally with tokens := tally.tokens + reply.usage.total })
  return reply.content

/-- Puts a question to the model; a fault becomes a reason. -/
def inquire (prompt : Prompt) : Action σ (Except String String) :=
  tryCatch (.ok <$> advisor.ask prompt) fun fault =>
    return .error ("LLM call failed: " ++ fault.text)

/-- A record from the text of an answer, or why there is none. A URL that cannot be read is a
fault. -/
def readDiscovery (now : Float) (url answer : String) :
    Except Fault (Except String Discovery) :=
  match Json.firstObject? answer with
  | none => .ok (.error "No JSON found in LLM response")
  | some raw =>
      match PageBindings.complete now raw url with
      | .error (.malformed form problems) =>
          let fault := Fault.malformed form problems
          .ok (.error ("Discovered bindings are malformed: " ++ fault.text))
      | .error fault => .error fault
      | .ok b =>
          if b.list = "" || b.listItem = "" then
            .ok (.error "Discovery did not produce LIST and LIST_ITEM selectors")
          else .ok (.ok ⟨b, b.report.errors ++ b.report.warnings⟩)

def discover (snapshot : Option Snapshot) : Action σ (Except String Discovery) := do
  match snapshot with
  | none =>
      if 0 < advisor.settings.minSnapshotChars then return .error tooSmall
      throw (.foreign "AttributeError" "'NoneType' object has no attribute 'url'")
  | some page =>
      let elements := Text.strip page.elements
      if elements.length < advisor.settings.minSnapshotChars then return .error tooSmall
      let prompt := Prompt.discovery (limits advisor.settings) page.url page.title elements
        page.visibleText
      match ← advisor.inquire prompt with
      | .error reason => return .error reason
      | .ok answer => liftM (readDiscovery (advisor.clock.time (← get)) page.url answer)
where
  tooSmall : String := "DOM snapshot is empty - page may not be fully loaded"

/-- The new value of a binding from the text of an answer, or why there is none. -/
def readRepair (now : Float) (binding : String) (current : Json) (answer : String) :
    Except String Fields :=
  let raw := (Json.firstObject? answer).getD []
  if raw.isEmpty then .error "No fix in LLM response"
  else
    match Entries.find? binding (Coerce.fields raw) with
    | none => .error ("Response has no usable " ++ binding)
    | some value =>
        if value.isNull then .error ("Response has no usable " ++ binding)
        else if value.same current then .error ("Proposed " ++ binding ++ " is unchanged")
        else
          match PageBindings.ofFieldsOrFault now [(binding, value)] with
          | .ok _ => .ok [(binding, value)]
          | .error _ => .error ("Proposed " ++ binding ++ " is not valid")

/-- Proposes a patch for the binding of a failed command. -/
def fix (request : RepairRequest) : Action σ (Except String Fields) := do
  let current := request.current.getD .null
  let prompt := Prompt.repair (limits advisor.settings) request.command.toJson request.binding
    current request.error request.dom
  match ← advisor.inquire prompt with
  | .error reason => return .error reason
  | .ok answer =>
      return readRepair (advisor.clock.time (← get)) request.binding current answer

def repairer : Repairer σ := fun request => do
  match ← advisor.fix request with
  | .ok patch => return some patch
  | .error _ => return none

end Advisor

end Gleaner
