import Gleaner.Browser.Basic
import Gleaner.Rehearsal.Trace

/-!
# Rehearsed engines

An engine that finds what it is told is there, and keeps a trace of what it is asked to do.
-/

set_option autoImplicit false

namespace Gleaner.Rehearsal

structure EngineWorld where
  trace : Trace := {}
  state : EngineState := {}
  connected : Bool := true
  url : String := "about:blank"
  title : String := ""
  /-- The name that the faults of the engine go by. -/
  faultName : String := "EngineError"
  /-- The selectors that are refused. -/
  bad : List String := []
  counts : Entries Int := []
  hidden : List String := []
  checked : List String := []
  labels : List String := []
  values : List String := []
  texts : Entries (List String) := []
  items : Entries (List Json) := []
  /-- What the scripts of a page give, by their names. -/
  results : Fields := []
  /-- The texts of the faults of calls. -/
  faults : Entries String := []

namespace EngineWorld

def fail {α : Type} (text : String) : Action EngineWorld α := do
  throw (.foreign (← get).faultName text)

def call (name : String) (args : List Json) : Action EngineWorld Unit :=
  modify fun world => { world with trace := world.trace.add { name, args } }

def failing (name : String) : Action EngineWorld Unit := do
  match Entries.find? name (← get).faults with
  | some text => fail text
  | none => pure ()

def locatorCall (method : String) (locator : Locator) (named : Fields) :
    Action EngineWorld Unit := do
  let index := match locator.index with
    | some index => Json.int index
    | none => .null
  call ("locator." ++ method) [.str locator.selector, index, .obj named]
  if (← get).bad.contains locator.selector then
    fail ("bad selector " ++ locator.selector)

def within (timeoutMs : Nat) : Fields := [("timeout", .int timeoutMs)]

def count (locator : Locator) (world : EngineWorld) : Int :=
  let total := (Entries.find? locator.selector world.counts).getD 0
  match locator.index with
  | some index => if index < total then 1 else 0
  | none => total

def textsOf (locator : Locator) (world : EngineWorld) : List String :=
  (Entries.find? locator.selector world.texts).getD []

def scriptName : PageScript → String
  | .serialize _ => "SERIALIZE_DOM_JS"
  | .geometry => "PAGE_STATE_JS"
  | .scrollByPage _ _ => "SCROLL_BY_PAGE_JS"
  | .scrollToPercent _ => "SCROLL_TO_PERCENT_JS"

def scriptArg : PageScript → Json
  | .serialize maxLines => .int maxLines
  | .geometry => .null
  | .scrollByPage container down => .arr [.ofString? container, .int (if down then 1 else -1)]
  | .scrollToPercent percent => .float percent

private def moving (timeoutMs : Nat) : Fields :=
  within timeoutMs ++ [("wait_until", .str "domcontentloaded")]

def page : EnginePage EngineWorld :=
  { url := EngineWorld.url
    title := return (← get).title
    go := fun url timeoutMs => do
      call "page.goto" [.str url, .obj (moving timeoutMs)]
      failing "goto"
      modify ({ · with url })
    back := fun timeoutMs => do
      call "page.go_back" [.obj (moving timeoutMs)]
      failing "go_back"
    reload := fun timeoutMs => do
      call "page.reload" [.obj (moving timeoutMs)]
      failing "reload"
    press := fun keys => do
      call "page.press" [.str keys, .obj []]
      failing "press"
    run := fun script => do
      call "page.evaluate" [.str (scriptName script), scriptArg script]
      return (Entries.find? (scriptName script) (← get).results).getD .null
    items := fun selector idSelector idAttribute => do
      call "page.eval_on_selector_all"
        [.str selector, .arr [.ofString? idSelector, .ofString? idAttribute]]
      return (Entries.find? selector (← get).items).getD []
    setDefaultTimeout := fun timeoutMs => call "page.set_default_timeout" [.int timeoutMs]
    count := fun locator => do
      locatorCall "count" locator []
      return count locator (← get)
    scrollIntoView := fun locator timeoutMs =>
      locatorCall "scroll_into_view_if_needed" locator (within timeoutMs)
    click := fun locator timeoutMs => locatorCall "click" locator (within timeoutMs)
    fill := fun locator text timeoutMs =>
      locatorCall "fill" locator (("text", .str text) :: within timeoutMs)
    choose := fun locator key option timeoutMs => do
      let name := match key with
        | .label => "label"
        | .value => "value"
      locatorCall "select_option" locator ((name, .str option) :: within timeoutMs)
      let world ← get
      let known := match key with
        | .label => world.labels
        | .value => world.values
      if !known.contains option then fail "no such option"
    isChecked := fun locator timeoutMs => do
      locatorCall "is_checked" locator (within timeoutMs)
      return (← get).checked.contains locator.selector
    isVisible := fun locator => do
      locatorCall "is_visible" locator []
      let world ← get
      return 0 < count locator world && !world.hidden.contains locator.selector
    texts := fun locator => do
      locatorCall "all_inner_texts" locator []
      return textsOf locator (← get)
    text := fun locator timeoutMs => do
      locatorCall "inner_text" locator (within timeoutMs)
      return "\n".intercalate (textsOf locator (← get)) }

def contextOptions (settings : BrowserSettings) : Fields :=
  let viewport : Json :=
    .obj [("width", .int settings.viewportWidth), ("height", .int settings.viewportHeight)]
  let agent := (settings.userAgent.filter (· ≠ "")).map fun agent => ("user_agent", Json.str agent)
  ("viewport", viewport) :: agent.toList

def engine : Engine EngineWorld :=
  { state := EngineWorld.state
    keep := fun state world => { world with state }
    start := do
      call "engine.start" []
      failing "start"
    launch := fun kind headless => do
      call "engine.launcher" [.str kind.name]
      call "launcher.launch" [.obj [("headless", .bool headless)]]
      failing "launch"
    connected := EngineWorld.connected
    openContext := fun settings => call "browser.new_context" [.obj (contextOptions settings)]
    openPage := call "context.new_page" []
    closeContext := call "context.close" []
    closeBrowser := call "browser.close" []
    stop := call "engine.stop" []
    page }

def ofJson (spec : Json) : EngineWorld :=
  let options := spec.part "options"
  { connected := ((spec.part? "connected").map Json.truthy).getD true
    url := ((spec.part "url").asString?).getD "about:blank"
    title := (spec.part "title").text
    bad := (spec.part "bad").texts
    counts := (spec.part "counts").fields.mapValues Json.integer
    hidden := (spec.part "hidden").texts
    checked := (spec.part "checked").texts
    labels := (options.part "label").texts
    values := (options.part "value").texts
    texts := (spec.part "texts").fields.mapValues Json.texts
    items := (spec.part "elements").fields.mapValues Json.items
    results := (spec.part "evaluate").fields
    faults := (spec.part "fail").textFields }

end EngineWorld

end Gleaner.Rehearsal
