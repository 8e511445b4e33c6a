/-!
# Recipes

A recipe is a list of commands for a page that shows a list of items and the details of one
of them. Commands focus elements, act on them, wait, scroll, take data, and repeat or choose
among other commands. All of it is plain data; what a command does is said elsewhere.
-/

set_option autoImplicit false

namespace Gleaner

inductive WaitTarget where
  | page
  | list
  | listUpdate
  | details
  deriving DecidableEq, Repr

/-- Which item of the list becomes current. -/
inductive ItemChoice where
  | first
  | next
  | current
  | unprocessed
  deriving DecidableEq, Repr

inductive ScrollTarget where
  | list
  | page
  deriving DecidableEq, Repr

inductive Direction where
  | up
  | down
  deriving DecidableEq, Repr

/-- What a choice between two branches looks at. -/
inductive Condition where
  /-- A named binding is on the page. -/
  | present (name : String)
  /-- A named binding is shown. -/
  | visible (name : String)
  | listEnd
  | pageEnd
  /-- The list is longer than at the last checkpoint. -/
  | newItems
  | not (inner : Condition)
  | all (parts : List Condition)
  | any (parts : List Condition)

inductive Until where
  /-- This many items were saved in the run. -/
  | collected (count : Nat)
  | noMoreItems
  /-- This many scrolls were made since the repetition began. -/
  | maxScrolls (count : Nat)
  | all (parts : List Until)
  | any (parts : List Until)

inductive Command where
  | openPage (url : String)
  | goBack
  | refresh
  | waitFor (target : WaitTarget)
  | wait (seconds : Float)
  | goTo (name : String)
  | goToFilter (name : String)
  | goToItem (which : ItemChoice)
  | type (text : String)
  | submit
  | click
  /-- A click on a named binding that may be missing. -/
  | clickIfExists (name : String)
  | select (option : String)
  | clear
  | setChecked (checked : Bool)
  | scroll (target : ScrollTarget) (direction : Direction)
  | scrollIfNotEnd (target : ScrollTarget)
  | scrollTo (percent : Float)
  /-- Reads the details text; selectors given here replace the bound ones. -/
  | extractDetails (selectors : Option (List String))
  | save (label : String)
  | markDone
  | forEachItem (body : List Command) (skipProcessed : Bool)
  | choose (condition : Condition) (thenBranch elseBranch : List Command)
  | repeatUntil (body : List Command) (goal : Until)
  | checkpointCount
  /-- Leaves the rest of the current item's body. -/
  | continueItem
  | finish

structure RunLimits where
  /-- The run stops once this many items are saved. -/
  maxItems : Option Nat := none
  /-- The time the run may take. -/
  timeoutMs : Option Nat := none
  deriving DecidableEq, Repr

structure Recipe where
  id : String
  name : String := ""
  description : String := ""
  commands : List Command := []
  limits : RunLimits := {}

namespace WaitTarget

def names : List (String × WaitTarget) :=
  [("page", .page), ("list", .list), ("listUpdate", .listUpdate), ("details", .details)]

def text : WaitTarget → String
  | .page => "page"
  | .list => "list"
  | .listUpdate => "listUpdate"
  | .details => "details"

end WaitTarget

namespace ItemChoice

def names : List (String × ItemChoice) :=
  [("first", .first), ("next", .next), ("current", .current), ("unprocessed", .unprocessed)]

def text : ItemChoice → String
  | .first => "first"
  | .next => "next"
  | .current => "current"
  | .unprocessed => "unprocessed"

end ItemChoice

namespace ScrollTarget

def names : List (String × ScrollTarget) := [("list", .list), ("page", .page)]

def text : ScrollTarget → String
  | .list => "list"
  | .page => "page"

end ScrollTarget

namespace Direction

def names : List (String × Direction) := [("up", .up), ("down", .down)]

def text : Direction → String
  | .up => "up"
  | .down => "down"

end Direction

namespace Condition

def tag : Condition → String
  | .present _ => "EXISTS"
  | .visible _ => "VISIBLE"
  | .listEnd => "LIST_END"
  | .pageEnd => "PAGE_END"
  | .newItems => "NEW_ITEMS"
  | .not _ => "NOT"
  | .all _ => "AND"
  | .any _ => "OR"

/-- The tags of all conditions, in the order in which they are listed to readers. -/
def tags : List String :=
  ["EXISTS", "VISIBLE", "LIST_END", "PAGE_END", "NEW_ITEMS", "NOT", "AND", "OR"]

end Condition

namespace Until

def tag : Until → String
  | .collected _ => "COLLECTED"
  | .noMoreItems => "NO_MORE_ITEMS"
  | .maxScrolls _ => "MAX_SCROLLS"
  | .all _ => "AND"
  | .any _ => "OR"

def tags : List String := ["COLLECTED", "NO_MORE_ITEMS", "MAX_SCROLLS", "AND", "OR"]

end Until

namespace Command

def tag : Command → String
  | .openPage _ => "OPEN_PAGE"
  | .goBack => "GO_BACK"
  | .refresh => "REFRESH"
  | .waitFor _ => "WAIT_FOR"
  | .wait _ => "WAIT"
  | .goTo _ => "GO_TO"
  | .goToFilter _ => "GO_TO_FILTER"
  | .goToItem _ => "GO_TO_ITEM"
  | .type _ => "TYPE"
  | .submit => "SUBMIT"
  | .click => "CLICK"
  | .clickIfExists _ => "CLICK_IF_EXISTS"
  | .select _ => "SELECT"
  | .clear => "CLEAR"
  | .setChecked _ => "SET_CHECKED"
  | .scroll _ _ => "SCROLL"
  | .scrollIfNotEnd _ => "SCROLL_IF_NOT_END"
  | .scrollTo _ => "SCROLL_TO"
  | .extractDetails _ => "EXTRACT_DETAILS"
  | .save _ => "SAVE"
  | .markDone => "MARK_DONE"
  | .forEachItem _ _ => "FOR_EACH_ITEM_IN_LIST"
  | .choose _ _ _ => "IF"
  | .repeatUntil _ _ => "REPEAT"
  | .checkpointCount => "CHECKPOINT_COUNT"
  | .continueItem => "CONTINUE"
  | .finish => "END"

def tags : List String :=
  ["OPEN_PAGE", "GO_BACK", "REFRESH", "WAIT_FOR", "WAIT", "GO_TO", "GO_TO_FILTER", "GO_TO_ITEM",
    "TYPE", "SUBMIT", "CLICK", "CLICK_IF_EXISTS", "SELECT", "CLEAR", "SET_CHECKED", "SCROLL",
    "SCROLL_IF_NOT_END", "SCROLL_TO", "EXTRACT_DETAILS", "SAVE", "MARK_DONE",
    "FOR_EACH_ITEM_IN_LIST", "IF", "REPEAT", "CHECKPOINT_COUNT", "CONTINUE", "END"]

end Command

end Gleaner
