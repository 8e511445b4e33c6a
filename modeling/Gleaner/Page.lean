import Gleaner.Fault

/-!
# Pages and clocks

The only view a run has of the outside: a page it can look at and act on, and a clock. Both
are given as operations on a state of the world, so that a run is a function of that state
and of what the operations answer. Any operation may fail.
-/

set_option autoImplicit false

namespace Gleaner

/-- A computation on the world that may fail; what it did before stays done. -/
abbrev Action (σ : Type) := ExceptT Fault (StateM σ)

/-- An element of a page: the first match of a selector, or the match at an index. -/
inductive ElementRef where
  | selector (selector : String)
  | indexed (selector : String) (index : Int)
  deriving DecidableEq, Repr

namespace ElementRef

def base : ElementRef → String
  | .selector s => s
  | .indexed s _ => s

def describe : ElementRef → String
  | .selector s => s
  | .indexed s index => s ++ "[" ++ toString index ++ "]"

end ElementRef

/-- An item of the list as a page describes it. -/
structure ListItem where
  index : Int
  text : String := ""
  href : Option String := none
  dataId : Option String := none
  /-- The value of the attribute that was asked for. -/
  attrValue : Option String := none
  deriving DecidableEq, Repr

/-- Where a page is scrolled to, and its elements as text. -/
structure PageState where
  url : String
  title : String := ""
  scrollY : Number
  scrollHeight : Number
  viewportHeight : Number
  elementTree : String := ""

/-- A page as text, for a model to read. -/
structure Snapshot where
  url : String
  title : String := ""
  elements : String := ""
  visibleText : Option String := none

structure Page (σ : Type) where
  url : σ → String
  navigate : String → Action σ Unit
  back : Action σ Unit
  reload : Action σ Unit
  /-- Whether there was an element to click. -/
  click : ElementRef → Action σ Bool
  enterText : ElementRef → String → Action σ Unit
  /-- Whether there was such an option. -/
  selectOption : ElementRef → String → Action σ Bool
  isChecked : ElementRef → Action σ Bool
  sendKeys : String → Action σ Unit
  scrollDown : Option String → Action σ Unit
  scrollUp : Option String → Action σ Unit
  scrollTo : Float → Action σ Unit
  isPresent : String → Action σ Bool
  isVisible : String → Action σ Bool
  count : String → Action σ Int
  /-- The matches of a selector; the second argument selects the part of an item that carries
  its id, the third names an attribute to report. -/
  items : String → Option String → Option String → Action σ (List ListItem)
  texts : String → Action σ (List String)
  state : Action σ PageState
  snapshot : Action σ Snapshot

inductive Span where
  | seconds (value : Float)
  | milliseconds (value : Number)
  deriving Repr

namespace Span

def ofMs (n : Nat) : Span := .milliseconds (.int n)

/-- The span in seconds, unless it is out of range. -/
def toSeconds : Span → Except Fault Float
  | .seconds x => .ok x
  | .milliseconds (.int n) =>
      let x := Number.thousandth (.int n)
      if x.isInf then .error (.number .quotientTooLarge) else .ok x
  | .milliseconds (.float x) => .ok (x / 1000)

end Span

/-- Whether a point in time has been reached, as a test of the world. -/
abbrev Deadline (σ : Type) := σ → Bool

structure Clock (σ : Type) where
  /-- Seconds since the epoch. -/
  time : σ → Float
  /-- The point in time a number of milliseconds from now. -/
  deadline : Nat → σ → Except Fault (Deadline σ)
  pause : Span → Action σ Unit

end Gleaner
