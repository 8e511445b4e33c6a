import Gleaner.Bindings.StateCondition
import Gleaner.Entries

/-!
# Bindings

Where things are on one site: selectors for the list, its items and the details panel, named
controls, predicates for the states of the page, and the rule that gives an item its id. A
record may be partial: every part has an empty form.
-/

set_option autoImplicit false

namespace Gleaner

/-- Where the id of an item comes from. -/
inductive IdSource where
  | href
  | attr
  | text
  | data
  deriving DecidableEq, Repr

/-- The rule for an item's id; the first group of `pattern` is the id. -/
structure ItemIdRule where
  source : IdSource := .href
  selector : Option String := none
  attrName : Option String := none
  pattern : Option String := none
  deriving DecidableEq, Repr

inductive FilterKind where
  | dropdown
  | checkbox
  | button
  | input
  deriving DecidableEq, Repr

structure FilterBinding where
  selector : String
  kind : FilterKind := .dropdown
  optionsSelector : Option String := none
  deriving DecidableEq, Repr

inductive ScrollBehavior where
  | infinite
  | paginated
  | loadMoreButton
  | fixed
  deriving DecidableEq, Repr

inductive ClickBehavior where
  | showsPanel
  | navigates
  | expands
  /-- Items show their details in place; there is nothing to click. -/
  | inPlace
  deriving DecidableEq, Repr

inductive ReturnToList where
  | goBack
  | clickClose
  | nothing
  deriving DecidableEq, Repr

/-- The predicates a record may give for the states of its page. -/
structure PageStates where
  pageLoaded : Option StateCondition := none
  listLoaded : Option StateCondition := none
  listUpdated : Option StateCondition := none
  detailsLoaded : Option StateCondition := none
  noMoreItems : Option StateCondition := none
  listEmpty : Option StateCondition := none
  loading : Option StateCondition := none
  deriving Inhabited, BEq

structure PageBindings where
  id : String := ""
  urlPattern : String := ""
  /-- Grows by one with each patch. -/
  version : Int := 1
  /-- Seconds since the epoch. -/
  updatedAt : Float
  searchBox : Option String := none
  searchSubmit : Option String := none
  list : String := ""
  listItem : String := ""
  listItemActive : Option String := none
  detailsPanel : Option String := none
  detailsContent : List String := []
  filters : Entries FilterBinding := []
  elements : Entries String := []
  scrollContainer : Option String := none
  loadMoreButton : Option String := none
  nextPageButton : Option String := none
  states : PageStates := {}
  itemId : Option ItemIdRule := none
  scrollBehavior : Option ScrollBehavior := none
  clickBehavior : Option ClickBehavior := none
  returnToList : Option ReturnToList := none
  closeDetailsButton : Option String := none
  deriving BEq

namespace IdSource

def names : List (String × IdSource) :=
  [("href", .href), ("attribute", .attr), ("text", .text), ("data", .data)]

def name : IdSource → String
  | .href => "href"
  | .attr => "attribute"
  | .text => "text"
  | .data => "data"

end IdSource

namespace FilterKind

def names : List (String × FilterKind) :=
  [("dropdown", .dropdown), ("checkbox", .checkbox), ("button", .button), ("input", .input)]

def name : FilterKind → String
  | .dropdown => "dropdown"
  | .checkbox => "checkbox"
  | .button => "button"
  | .input => "input"

end FilterKind

namespace ScrollBehavior

def names : List (String × ScrollBehavior) :=
  [("infinite", .infinite), ("paginated", .paginated), ("load_more_button", .loadMoreButton),
    ("static", .fixed)]

def name : ScrollBehavior → String
  | .infinite => "infinite"
  | .paginated => "paginated"
  | .loadMoreButton => "load_more_button"
  | .fixed => "static"

end ScrollBehavior

namespace ClickBehavior

def names : List (String × ClickBehavior) :=
  [("shows_panel", .showsPanel), ("navigates", .navigates), ("expands", .expands),
    ("inline", .inPlace)]

def name : ClickBehavior → String
  | .showsPanel => "shows_panel"
  | .navigates => "navigates"
  | .expands => "expands"
  | .inPlace => "inline"

end ClickBehavior

namespace ReturnToList

def names : List (String × ReturnToList) :=
  [("go_back", .goBack), ("click_close", .clickClose), ("none", .nothing)]

def name : ReturnToList → String
  | .goBack => "go_back"
  | .clickClose => "click_close"
  | .nothing => "none"

end ReturnToList

end Gleaner
