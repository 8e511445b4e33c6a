import Gleaner.Run.Session
import Gleaner.Text.Pattern.Reader

/-!
# Looking at the page

Names resolved to selectors, and the truth of conditions: those of bindings on the state of
the page, those of choices, and those that end repetitions. Conjunctions and disjunctions
look at their parts in order and no further than needed.
-/

set_option autoImplicit false

namespace Gleaner

private def nonEmpty (text : String) : Option String :=
  if text = "" then none else some text

/-- The selector a name stands for: a place of the record, a named element or a filter. -/
def PageBindings.selectorFor? (b : PageBindings) (name : String) : Option String :=
  match name with
  | "nextPageButton" => b.nextPageButton.bind nonEmpty
  | "loadMoreButton" => b.loadMoreButton.bind nonEmpty
  | "list" => nonEmpty b.list
  | "listItem" => nonEmpty b.listItem
  | "detailsPanel" => b.detailsPanel.bind nonEmpty
  | "searchBox" => b.searchBox.bind nonEmpty
  | "searchSubmit" => b.searchSubmit.bind nonEmpty
  | "closeDetailsButton" => b.closeDetailsButton.bind nonEmpty
  | _ =>
      match Entries.find? name b.elements with
      | some selector => nonEmpty selector
      | none => (Entries.find? name b.filters).map (·.selector)

def PageBindings.itemSelector (b : PageBindings) : Except Fault String :=
  if Text.isBlankText b.listItem then
    .error (.bindingMissing "LIST_ITEM not defined in bindings" "LIST_ITEM" none)
  else .ok b.listItem

namespace Interp

variable {σ : Type} (host : Host σ)

def urlMatches (pattern url : String) : Except Fault Bool :=
  match Text.Search.read pattern with
  | .ok search => .ok (search.find? url).isSome
  | .error error => .error (.badPattern error)

mutual

def holds : StateCondition → Interp σ Bool
  | .present selector => act (host.page.isPresent selector)
  | .visible selector => act (host.page.isVisible selector)
  | .gone selector => return !(← act (host.page.isPresent selector))
  | .countChanged selector => do
      let count ← act (host.page.count selector)
      return count ≠ (← run).checkpoint
  | .countAtLeast selector least => do
      let count ← act (host.page.count selector)
      return (least : Int) ≤ count
  | .urlContains text => return Text.occursIn text (host.page.url (← get).world)
  | .urlMatches pattern => do
      let url := host.page.url (← get).world
      liftM (urlMatches pattern url)
  | .allOf parts => allHold parts
  | .anyOf parts => anyHolds parts

def allHold : List StateCondition → Interp σ Bool
  | [] => return true
  | part :: rest => do
      if ← holds part then allHold rest else return false

def anyHolds : List StateCondition → Interp σ Bool
  | [] => return false
  | part :: rest => do
      if ← holds part then return true else anyHolds rest

end

/-- The length of the list; none when nothing says what an item is. -/
def countItems : Interp σ Int := do
  let b ← bindings
  if Text.isBlankText b.listItem then return 0
  else act (host.page.count b.listItem)

/-- Whether the page is scrolled to its end, or nearly. -/
def atPageEnd : Interp σ Bool := do
  let state ← act host.page.state
  let bottom := state.scrollHeight - .int host.settings.pageEndThresholdPx
  return bottom.atMost (state.scrollY + state.viewportHeight)

/-- A test of the selector that a name stands for; false when the name is not bound. -/
def lookFor (test : String → Action σ Bool) (name : String) : Interp σ Bool := do
  match (← bindings).selectorFor? name with
  | none => return false
  | some selector => if selector = "" then return false else act (test selector)

mutual

def evaluate : Condition → Interp σ Bool
  | .present name => lookFor host.page.isPresent name
  | .visible name => lookFor host.page.isVisible name
  | .listEnd => atPageEnd host
  | .pageEnd => atPageEnd host
  | .newItems => do
      let count ← countItems host
      return (← run).checkpoint < count
  | .not inner => return !(← evaluate inner)
  | .all parts => evaluateAll parts
  | .any parts => evaluateAny parts

def evaluateAll : List Condition → Interp σ Bool
  | [] => return true
  | part :: rest => do
      if ← evaluate part then evaluateAll rest else return false

def evaluateAny : List Condition → Interp σ Bool
  | [] => return false
  | part :: rest => do
      if ← evaluate part then return true else evaluateAny rest

end

def noMoreItems : Interp σ Bool := do
  match (← bindings).states.noMoreItems with
  | some condition => holds host condition
  | none => return false

mutual

/-- Whether a repetition that began after `before` scrolls has reached its goal. -/
def reached (before : Nat) : Until → Interp σ Bool
  | .collected count => return count ≤ (← run).collected.length
  | .noMoreItems => do
      if host.settings.noNewItemsLimit ≤ (← run).staleRounds then return true
      else noMoreItems host
  | .maxScrolls count => return before + count ≤ (← run).stats.scrollsPerformed
  | .all parts => allReached before parts
  | .any parts => anyReached before parts

def allReached (before : Nat) : List Until → Interp σ Bool
  | [] => return true
  | part :: rest => do
      if ← reached before part then allReached before rest else return false

def anyReached (before : Nat) : List Until → Interp σ Bool
  | [] => return false
  | part :: rest => do
      if ← reached before part then return true else anyReached before rest

end

end Interp

end Gleaner
