import Gleaner.Browser.Engine
import Gleaner.Json.Parts
import Gleaner.Text.Literal

/-!
# Pages of an engine

The page that a run needs, on the page that an engine gives. A selector that the engine does
not accept counts as one without matches, where a run only looks; faults of navigation say
where they were going.
-/

set_option autoImplicit false

namespace Gleaner

structure BrowserPage (σ : Type) where
  engine : EnginePage σ
  timeoutMs : Nat := 30000
  maxSnapshotLines : Nat := 1500

namespace BrowserPage

variable {σ : Type} (page : BrowserPage σ)

def orElse {α : Type} (value : α) (work : Action σ α) : Action σ α :=
  tryCatch work fun _ => return value

def navigating (what : String) (url : Action σ String) (work : Action σ Unit) : Action σ Unit :=
  tryCatch work fun fault => do
    throw (.navigation ("Failed to " ++ what ++ ": " ++ fault.text) (some (← url)))

def url : Action σ String := return page.engine.url (← get)

def navigate (target : String) : Action σ Unit :=
  navigating ("navigate to " ++ target) (return target)
    (page.engine.go target page.timeoutMs)

def present? (ref : ElementRef) : Action σ (Option Locator) := do
  let locator := ref.locator
  return if (← page.engine.count locator) = 0 then none else some locator

def present (ref : ElementRef) : Action σ Locator := do
  match ← page.present? ref with
  | some locator => return locator
  | none => throw (.elementNotFound ("Element not found: " ++ ref.describe) ref.base)

def click (ref : ElementRef) : Action σ Bool := do
  match ← page.present? ref with
  | some locator =>
      page.engine.scrollIntoView locator page.timeoutMs
      page.engine.click locator page.timeoutMs
      return true
  | none => return false

/-- Chooses an option by what is shown of it, or else by its value. -/
def selectOption (ref : ElementRef) (option : String) : Action σ Bool := do
  let locator ← page.present ref
  let attempt (key : OptionKey) : Action σ Bool :=
    orElse false do
      page.engine.choose locator key option page.timeoutMs
      return true
  if ← attempt .label then return true
  attempt .value

private def noSuch (key : String) : Fault := .foreign "KeyError" (Text.quoted key)

def described (key : String) : Json → Except Fault Json
  | .obj fields =>
      match Entries.find? key fields with
      | some value => .ok value
      | none => .error (noSuch key)
  | .arr _ => .error (.foreign "TypeError" "list indices must be integers or slices, not str")
  | .str _ => .error (.foreign "TypeError" "string indices must be integers, not 'str'")
  | other =>
      .error (.foreign "TypeError" ("'" ++ other.kindName ++ "' object is not subscriptable"))

def itemOf (entry : Json) : Except Fault ListItem := do
  return {
    index := (← described "index" entry).integer
    text := (entry.part "text").text
    href := (entry.part "href").asString?
    dataId := (entry.part "dataId").asString?
    attrValue := (entry.part "attribute").asString? }

def items (selector : String) (idSelector idAttribute : Option String) :
    Action σ (List ListItem) := do
  let found ← page.engine.items selector idSelector idAttribute
  liftM (found.mapM itemOf)

def elements : Action σ String := do
  return (← page.engine.run (.serialize page.maxSnapshotLines)).text

def state : Action σ PageState := do
  let geometry ← page.engine.run .geometry
  let elementTree ← page.elements
  let url ← page.url
  let title ← page.engine.title
  let number (key : String) : Except Fault Number := Json.number <$> described key geometry
  return {
    url
    title
    scrollY := ← liftM (number "scrollY")
    scrollHeight := ← liftM (number "scrollHeight")
    viewportHeight := ← liftM (number "viewportHeight")
    elementTree }

def snapshot : Action σ Snapshot := do
  let elements ← page.elements
  let visibleText ← orElse none (some <$> page.engine.text ⟨"body", none⟩ page.timeoutMs)
  return { url := ← page.url, title := ← page.engine.title, elements, visibleText }

def toPage : Page σ :=
  let engine := page.engine
  { url := engine.url
    navigate := page.navigate
    back := navigating "go back" page.url (engine.back page.timeoutMs)
    reload := navigating "reload" page.url (engine.reload page.timeoutMs)
    click := page.click
    enterText := fun ref text => do engine.fill (← page.present ref) text page.timeoutMs
    selectOption := page.selectOption
    isChecked := fun ref => do engine.isChecked (← page.present ref) page.timeoutMs
    sendKeys := engine.press
    scrollDown := fun container => discard (engine.run (.scrollByPage container true))
    scrollUp := fun container => discard (engine.run (.scrollByPage container false))
    scrollTo := fun percent => discard (engine.run (.scrollToPercent percent))
    isPresent := fun selector => orElse false do return 0 < (← engine.count ⟨selector, none⟩)
    isVisible := fun selector => orElse false (engine.isVisible ⟨selector, some 0⟩)
    count := fun selector => orElse 0 (engine.count ⟨selector, none⟩)
    items := page.items
    texts := fun selector => orElse [] (engine.texts ⟨selector, none⟩)
    state := page.state
    snapshot := page.snapshot }

end BrowserPage

end Gleaner
