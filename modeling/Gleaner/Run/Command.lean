import Gleaner.Run.Details
import Gleaner.Run.Flow

/-!
# What commands do

Each command as a step of a session. Focus is a reference to an element that later commands
act on; acting without one is a fault.
-/

set_option autoImplicit false

namespace Gleaner

namespace Interp

variable {σ : Type} (host : Host σ)

def acting (action : Action σ Unit) (answer : Report) : Interp σ Report := do
  act action
  return answer

/-- The selector that a name of the focus command stands for. -/
def focusSelector (b : PageBindings) (name : String) : Except Fault String :=
  let bound (selector : Option String) (key : String) : Except Fault String :=
    match selector.getD "" with
    | "" => .error (.bindingMissing (key ++ " not defined in bindings") key (some "GO_TO"))
    | text => .ok text
  match name with
  | "searchBox" => bound b.searchBox "SEARCH_BOX"
  | "list" => bound (some b.list) "LIST"
  | "details" => bound b.detailsPanel "DETAILS_PANEL"
  | _ =>
      match (Entries.find? name b.elements).getD "" with
      | "" =>
          .error (.bindingMissing ("Element \"" ++ name ++ "\" not defined in ELEMENTS bindings")
            "ELEMENTS" (some "GO_TO"))
      | text => .ok text

def filterSelector (b : PageBindings) (name : String) : Except Fault String :=
  match Entries.find? name b.filters with
  | some filter => .ok filter.selector
  | none =>
      .error (.bindingMissing ("Filter \"" ++ name ++ "\" not defined in FILTERS bindings")
        "FILTERS" (some "GO_TO_FILTER"))

def focusOn (selector : String) : Interp σ Report := do
  if ← act (host.page.isPresent selector) then
    update fun run => { run with focus := some (.selector selector) }
    return .focused selector
  else throw (.elementNotFound ("Element not found: " ++ selector) selector)

def goTo (name : String) : Interp σ Report := do
  focusOn host (← liftM (focusSelector (← bindings) name))

def goToFilter (name : String) : Interp σ Report := do
  focusOn host (← liftM (filterSelector (← bindings) name))

def focused (action : String) : Interp σ ElementRef := do
  match (← run).focus with
  | some ref => return ref
  | none => throw (.command ("No element focused for " ++ action) (some action))

/-- Clicks the focused element, unless it is an item that shows its details in place. -/
def click : Interp σ Report := do
  let ref ← focused "CLICK"
  let onItem := (← run).current.any fun current => current.ref = ref
  if onItem && (← bindings).clickBehavior = some .inPlace then return .shownInPlace
  if ← act (host.page.click ref) then return .clicked true
  throw (.elementNotFound ("Element not found: " ++ ref.describe) ref.base)

def clickIfExists (name : String) : Interp σ Report := do
  if ← lookFor host.page.isPresent name then
    let selector := ((← bindings).selectorFor? name).getD ""
    return .clicked (← act (host.page.click (.selector selector)))
  else return .clicked false

def enterText (text : String) : Interp σ Report := do
  let ref ← focused "TYPE"
  acting (host.page.enterText ref text) .done

def clear : Interp σ Report := do
  act (host.page.sendKeys "Control+a")
  act (host.page.sendKeys "Backspace")
  return .done

def selectOption (option : String) : Interp σ Report := do
  let ref ← focused "SELECT"
  if ← act (host.page.selectOption ref option) then return .selected option
  throw (.command ("Option \"" ++ option ++ "\" not available") (some "SELECT"))

def setChecked (checked : Bool) : Interp σ Report := do
  let ref ← focused "SET_CHECKED"
  let changed := (← act (host.page.isChecked ref)) != checked
  if changed then discard (act (host.page.click ref))
  return .checkChanged changed

def scroll (target : ScrollTarget) (direction : Direction) : Interp σ Report := do
  update Run.countScroll
  let b ← bindings
  let container := match target with
    | .list => b.scrollContainer
    | .page => none
  match direction with
  | .down => acting (host.page.scrollDown container) .done
  | .up => acting (host.page.scrollUp container) .done

def scrollIfNotEnd (target : ScrollTarget) : Interp σ Report := do
  if ← atPageEnd host then return .scrolled false
  discard (scroll host target .down)
  return .scrolled true

def scrollTo (percent : Float) : Interp σ Report := do
  update Run.countScroll
  acting (host.page.scrollTo percent) .done

def noteCount : Interp σ Report := do
  let count ← countItems host
  update fun run => { run with checkpoint := count }
  return .counted count

def noting (change : Run → Run) : Interp σ Report := do
  update change
  return .done

end Interp

mutual

def Command.run {σ : Type} (host : Host σ) : Command → Step σ
  | .openPage url => report (Interp.acting (host.page.navigate url) (.opened url))
  | .goBack => report (Interp.acting host.page.back .done)
  | .refresh => report (Interp.acting host.page.reload .done)
  | .waitFor target => report (Interp.waitFor host target)
  | .wait seconds => report (Interp.acting (host.clock.pause (.seconds seconds)) .done)
  | .goTo name => report (Interp.goTo host name)
  | .goToFilter name => report (Interp.goToFilter host name)
  | .goToItem which => report (Interp.goToItem host which)
  | .type text => report (Interp.enterText host text)
  | .submit => report (Interp.acting (host.page.sendKeys "Enter") .done)
  | .click => report (Interp.click host)
  | .clickIfExists name => report (Interp.clickIfExists host name)
  | .select option => report (Interp.selectOption host option)
  | .clear => report (Interp.clear host)
  | .setChecked checked => report (Interp.setChecked host checked)
  | .scroll target direction => report (Interp.scroll host target direction)
  | .scrollIfNotEnd target => report (Interp.scrollIfNotEnd host target)
  | .scrollTo percent => report (Interp.scrollTo host percent)
  | .extractDetails selectors => report (Interp.extractDetails host selectors)
  | .save label => report (Interp.save host label)
  | .markDone => report Interp.markDone
  | .forEachItem body skipProcessed =>
      report (Interp.forEachItem host skipProcessed (Command.steps host body))
  | .choose condition thenBranch elseBranch =>
      attempt (Interp.choose host condition (Command.steps host thenBranch)
        (Command.steps host elseBranch))
  | .repeatUntil body goal => report (Interp.repeatUntil host goal (Command.steps host body))
  | .checkpointCount => report (Interp.noteCount host)
  | .continueItem => report (Interp.noting fun run => { run with skipping := true })
  | .finish => report (Interp.noting fun run => { run with stopped := true })

def Command.steps {σ : Type} (host : Host σ) : List Command → List (Step σ)
  | [] => []
  | command :: rest => command.run host :: Command.steps host rest

end

end Gleaner
