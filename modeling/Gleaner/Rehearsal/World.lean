import Gleaner.Advisor.Basic
import Gleaner.Files
import Gleaner.Rehearsal.Stage
import Gleaner.Rehearsal.Trace
import Gleaner.Settings.Environment
import Gleaner.Store

/-!
# Rehearsals

A world for sessions to work in: a stage, a clock that only moves when it is told to, and a
trace of every call. A script may slow calls down or make them fail.
-/

set_option autoImplicit false

namespace Gleaner.Rehearsal

/-- A model that gives prepared answers in order and remembers what it was asked. -/
structure ScriptedModel where
  answers : List (Except Fault Reply) := []
  calls : List Completion := []

structure World where
  /-- Microseconds since the beginning. -/
  us : Int := 0
  trace : Trace := {}
  stage : Stage := {}
  /-- Milliseconds that a call of a method takes. -/
  latency : Entries Nat := []
  /-- The faults of the next calls of a method. -/
  faults : Entries (List (Option Fault)) := []
  /-- The answers of the repairer to come. -/
  proposals : List (Except Fault (Option Fields)) := []
  /-- What the repairer was asked. -/
  requests : List RepairRequest := []
  /-- The model that is asked about bindings. -/
  advice : ScriptedModel := {}
  /-- The model that structures items. -/
  jobs : ScriptedModel := {}
  tally : Tally := {}
  /-- What is in the store. -/
  records : Records := []
  /-- A record that somebody else stores when a progress line begins with a text. -/
  intruder : Option (String × PageBindings) := none
  /-- The lines of progress, or of a console. -/
  lines : List String := []
  files : Files := []
  environment : Environment := []
  /-- Whether the models can be reached. -/
  healthy : Bool := true
  /-- Why the browser cannot be launched. -/
  launchFault : Option Fault := none
  /-- The settings and names of the models that were asked for. -/
  models : List (ModelSettings × String) := []

namespace World

def time (world : World) : Float :=
  Decimal.ofInt (1700000000000000 + world.us) / 1000000

def elapsed (world : World) : Float :=
  Decimal.ofInt world.us / 1000000

def record (name : String) (args : List Json) (world : World) : World :=
  { world with trace := world.trace.add { name, args } }

/-- The fault of the next call of a method, and the world without it. -/
def takeFault (method : String) (world : World) : Option Fault × World :=
  match Entries.find? method world.faults with
  | some (first :: rest) =>
      (first, { world with faults := Entries.put method rest world.faults })
  | _ => (none, world)

/-- A call of a method before it does its work. -/
def call (method : String) (args : List Json) : Action World Unit := fun world =>
  let world := world.record method args
  let ms := (Entries.find? method world.latency).getD 0
  match ({ world with us := world.us + ms * 1000 }).takeFault method with
  | (some fault, world) => (.error fault, world)
  | (none, world) => (.ok (), world)

def look {α : Type} (method : String) (args : List Json) (f : World → α) : Action World α := do
  call method args
  return f (← get)

def change (method : String) (args : List Json) (f : Stage → Stage) : Action World Unit := do
  call method args
  modify fun world => { world with stage := f world.stage }

/-- Microseconds in a number of seconds, to the nearest; a thousand million seconds at most. -/
def microseconds? (seconds : Float) : Option Int :=
  let most : Float := 1000000000
  Decimal.floor? ((if most < seconds then most else seconds) * 1000000 + 0.5)

/-- How long a pause is, in microseconds. Whole milliseconds are exact as far as they count. -/
def pauseLength (span : Span) : Except Fault Int := do
  let seconds ← span.toSeconds
  match span with
  | .milliseconds (.int (.ofNat ms)) => return min (ms * 1000) 1000000000000000
  | _ => (microseconds? seconds).elim (.error (.number .notANumber)) .ok

def pause (span : Span) : Action World Unit := do
  let us ← liftM (pauseLength span)
  modify fun world =>
    let world := world.record "sleep" [.int us]
    { world with us := world.us + us }

def deadline (timeoutMs : Nat) (world : World) : Except Fault (Deadline World) := do
  let seconds ← (Span.ofMs timeoutMs).toSeconds
  let limit := world.elapsed + seconds
  return fun later => limit ≤ later.elapsed

end World

def clock : Clock World :=
  { time := World.time
    deadline := World.deadline
    pause := World.pause }

def store : Store World :=
  Medium.memory.store clock World.records fun records world => { world with records }

/-- Keeps a line of progress; the intruder may act on it. -/
def progress (line : String) : Action World Unit := fun world =>
  let world := { world with lines := world.lines ++ [line] }
  match world.intruder with
  | some (start, record) =>
      if line.startsWith start then
        (.ok (), { world with records := Entries.put record.id record world.records })
      else (.ok (), world)
  | none => (.ok (), world)

/-- A repairer that gives the prepared answers in order, and then none. -/
def repairer : Repairer World := fun request world =>
  let world := { world with requests := world.requests ++ [request] }
  match world.proposals with
  | [] => (.ok none, world)
  | proposal :: proposals => (proposal, { world with proposals })

private def refJson (ref : ElementRef) : Json := .str ref.describe

def page : Page World :=
  { url := fun world => world.stage.url
    navigate := fun url => World.change "navigate_to" [.str url] ({ · with url })
    back := World.change "go_back" [] ({ · with active := none })
    reload := World.call "refresh" []
    click := fun ref => do
      World.call "click" [refJson ref]
      let world ← get
      let (hit, stage) := world.stage.click world.us ref
      set { world with stage }
      return hit
    enterText := fun ref text => World.call "input_text" [refJson ref, .str text]
    selectOption := fun ref option =>
      World.look "select_option" [refJson ref, .str option] fun world =>
        match Entries.find? ref.base world.stage.options with
        | some options => options.contains option
        | none => true
    isChecked := fun ref =>
      World.look "is_checked" [refJson ref] fun world =>
        (Entries.find? ref.base world.stage.checked).getD false
    sendKeys := fun keys => World.call "send_keys" [.str keys]
    scrollDown := fun container =>
      World.change "scroll_to_next_page" [.ofString? container] Stage.scrollDown
    scrollUp := fun container =>
      World.change "scroll_to_previous_page" [.ofString? container] Stage.scrollUp
    scrollTo := fun percent =>
      World.change "scroll_to_percent" [.float percent] (Stage.scrollTo percent)
    isPresent := fun selector =>
      World.look "selector_exists" [.str selector] fun world =>
        0 < world.stage.count world.us selector
    isVisible := fun selector =>
      World.look "is_visible" [.str selector] fun world =>
        0 < world.stage.count world.us selector && !world.stage.hidden.contains selector
    count := fun selector =>
      World.look "count_selector" [.str selector] fun world => world.stage.count world.us selector
    items := fun selector idSelector attrName =>
      World.look "query_selector_all"
        [.str selector, .ofString? idSelector, .ofString? attrName] fun world =>
          if selector = world.stage.listItem then world.stage.listed attrName else []
    texts := fun selector =>
      World.look "get_text_from_selector" [.str selector] fun world =>
        world.stage.textsOf selector
    state := World.look "get_state" [] fun world => world.stage.state
    snapshot := do
      World.change "get_dom_snapshot" [] Stage.forSnapshot
      return (← get).stage.snapshot }

end Gleaner.Rehearsal
