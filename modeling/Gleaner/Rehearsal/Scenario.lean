import Gleaner.Json.Parts
import Gleaner.Rehearsal.Script

/-!
# Scenarios

Descriptions of what a rehearsal begins with: the stage and its faults, what the models will
say, what the repairer will propose. What a description leaves out keeps its value.
-/

set_option autoImplicit false

namespace Gleaner.Rehearsal

/-! ## Faults -/

/-- A fault by its kind and text; without a kind it is a plain fault of a collaborator. -/
def faultOf (spec : Json) : Fault :=
  let name := ((spec.part? "kind").bind Json.asString?).getD "RuntimeError"
  let message := (spec.part "message").text
  match FaultKind.ofName? name with
  | none =>
      if name = "KeyError" && message ≠ "" then .foreign name (Text.quoted message)
      else .foreign name message
  | some .navigation => .navigation message (spec.part "url").asString?
  | some .elementNotFound => .elementNotFound message (spec.part "selector").text
  | some .waitTimeout => .waitTimeout message (spec.part "timeout_ms").integer none
  | some .rateLimit => .rateLimit message ((spec.part? "retry_after").map Json.number)
  | some .invalidResponse => .invalidResponse message none
  | some .command => .command message none
  | some .bindingMissing => .bindingMissing message ((spec.part "binding").text?.getD "LIST") none
  | some .unknownCommand => .unknownCommand message
  | some .bindingValidation => .bindingValidation message []
  | some .staleBindings => .staleBindings message 0 0
  | some kind => .plain kind message []

/-- The names above the name of a fault that is none of the library's. -/
def namesAbove : String → List String
  | "TimeoutError" | "ConnectionError" => ["OSError"]
  | "KeyError" | "IndexError" => ["LookupError"]
  | "OverflowError" => ["ArithmeticError"]
  | "NotImplementedError" | "RecursionError" => ["RuntimeError"]
  | _ => []

/-- Whether a fault goes by a name: its own, or one above it. -/
def goesBy (fault : Fault) (name : String) : Bool :=
  if name = "Exception" || name = "BaseException" then true
  else
    match FaultKind.ofName? name with
    | some kind => fault.isA kind
    | none => fault.kind?.isNone && (fault.name = name || (namesAbove fault.name).contains name)

def policyOf (config : Json) : RetryPolicy :=
  let usual : RetryPolicy := {}
  let number (name : String) (value : Number) := ((config.part? name).map Json.number).getD value
  { maxAttempts := ((config.part? "max_attempts").map Json.integer).getD usual.maxAttempts
    initialDelayMs := number "initial_delay_ms" usual.initialDelayMs
    maxDelayMs := number "max_delay_ms" usual.maxDelayMs
    backoff := number "backoff_multiplier" usual.backoff
    retryOn := match config.part? "retry_on" with
      | some names => fun fault => names.texts.any (goesBy fault)
      | none => usual.retryOn }

/-! ## The stage -/

def stageItem (spec : Json) : StageItem :=
  { id := (spec.part "id").asString?
    text := (spec.part "text").text
    href := (spec.part "href").asString?
    attributes := (spec.part "attrs").textFields
    details := match spec.part "details" with
      | .str text => [text]
      | value => value.texts }

def stageItems (value : Json) : List StageItem := value.items.map stageItem

def cue? : Json → Option Cue
  | .arr [ms, .str selector, count] => some ⟨ms.integer, selector, count.integer⟩
  | _ => none

def Stage.set (stage : Stage) (key : String) (value : Json) : Stage :=
  match key with
  | "url" => { stage with url := value.text }
  | "title" => { stage with title := value.text }
  | "dom" => { stage with dom := value.text }
  | "visible_text" => { stage with visibleText := value.asString? }
  | "doms" => { stage with doms := value.texts }
  | "scroll_y" => { stage with scrollY := value.number }
  | "scroll_height" => { stage with scrollHeight := value.number }
  | "viewport_height" => { stage with viewportHeight := value.number }
  | "reveal" => { stage with reveal := value.natural }
  | "list_item" => { stage with listItem := value.text }
  | "details" => { stage with details := value.text }
  | "selectors" => { stage with selectors := value.fields.mapValues Json.integer }
  | "hidden" => { stage with hidden := value.texts }
  | "texts" => { stage with texts := value.fields.mapValues Json.texts }
  | "timeline" => { stage with timeline := value.items.filterMap cue? }
  | "reveal_on_click" => { stage with revealOnClick := value.texts }
  | "next_on_click" => { stage with nextOnClick := value.texts }
  | "close_on_click" => { stage with closeOnClick := value.texts }
  | "options" => { stage with options := value.fields.mapValues Json.texts }
  | "checked" => { stage with checked := value.fields.mapValues Json.truthy }
  | _ => stage

/-- The stage with the items of a description; all of them are visible. -/
def Stage.setItems (stage : Stage) (spec : Json) : Stage :=
  match spec.part? "pages", spec.part? "items" with
  | some pages, _ =>
      match pages.items.map stageItems with
      | items :: nextPages => { stage with items, nextPages, visible := items.length }
      | [] => { stage with nextPages := [] }
  | none, some value =>
      let items := stageItems value
      { stage with items, visible := items.length }
  | none, none => stage

/-- A world whose stage is set anew, as far as a description says. -/
def World.setStage (spec : Json) (world : World) : World :=
  let stage := spec.fields.foldl (fun stage (key, value) => stage.set key value) world.stage
  let stage := stage.setItems spec
  let stage := match spec.part? "visible" with
    | some visible => { stage with visible := visible.natural }
    | none => stage
  let fault? (fault : Json) : Option Fault :=
    if fault.isNull then none else some (faultOf fault)
  { world with
    stage
    latency := match spec.part? "latency" with
      | some value => value.fields.mapValues Json.natural
      | none => world.latency
    faults := match spec.part? "fail" with
      | some value => value.fields.mapValues fun faults => faults.items.map fault?
      | none => world.faults }

/-! ## Collaborators -/

def proposalOf (reply : Json) : Except Fault (Option Fields) :=
  match reply.part? "raise" with
  | some fault => .error (faultOf fault)
  | none => .ok ((reply.part? "patch").map Json.fields)

def usualTokens : Number := .int 10

def answerOf (reply : Json) : Except Fault Reply :=
  match reply with
  | .str content => .ok (ScriptedModel.reply content usualTokens)
  | _ =>
      match reply.part? "raise" with
      | some fault => .error (faultOf fault)
      | none =>
          .ok (ScriptedModel.reply (reply.part "content").text
            (((reply.part? "tokens").map Json.number).getD usualTokens))

def scriptOf (replies : Json) : ScriptedModel :=
  { answers := replies.items.map answerOf }

def World.freshen (world : World) : World :=
  { world with
    trace := {}
    requests := []
    lines := []
    advice := { world.advice with calls := [] }
    jobs := { world.jobs with calls := [] } }

end Gleaner.Rehearsal
