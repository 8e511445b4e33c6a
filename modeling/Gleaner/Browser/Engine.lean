import Gleaner.Page
import Gleaner.Settings.Basic

/-!
# Browser engines

What a browser engine can do for a page and for itself, as operations that may fail with
faults of their own. A locator stands for elements without looking for them.
-/

set_option autoImplicit false

namespace Gleaner

/-- All matches of a selector, or the one at an index. -/
structure Locator where
  selector : String
  index : Option Int := none
  deriving DecidableEq, Repr

/-- The element a reference is about; of several the first. -/
def ElementRef.locator : ElementRef → Locator
  | .selector s => ⟨s, some 0⟩
  | .indexed s index => ⟨s, some index⟩

/-- The scripts that run inside a page. -/
inductive PageScript where
  /-- The elements as text, up to a number of lines. -/
  | serialize (maxLines : Nat)
  /-- Where the page is scrolled to. -/
  | geometry
  /-- Scrolls an element, or the page, by its height; down or up. -/
  | scrollByPage (container : Option String) (down : Bool)
  | scrollToPercent (percent : Float)

/-- How a choice is named: by what is shown, or by what is sent. -/
inductive OptionKey where
  | label
  | value
  deriving DecidableEq, Repr

/-- A page of an engine. Times are in milliseconds. -/
structure EnginePage (σ : Type) where
  url : σ → String
  title : Action σ String
  go : String → Nat → Action σ Unit
  back : Nat → Action σ Unit
  reload : Nat → Action σ Unit
  press : String → Action σ Unit
  run : PageScript → Action σ Json
  /-- The matches of a selector, each as an object. -/
  items : String → Option String → Option String → Action σ (List Json)
  setDefaultTimeout : Nat → Action σ Unit
  count : Locator → Action σ Int
  scrollIntoView : Locator → Nat → Action σ Unit
  click : Locator → Nat → Action σ Unit
  fill : Locator → String → Nat → Action σ Unit
  choose : Locator → OptionKey → String → Nat → Action σ Unit
  isChecked : Locator → Nat → Action σ Bool
  isVisible : Locator → Action σ Bool
  texts : Locator → Action σ (List String)
  text : Locator → Nat → Action σ String

/-- What of an engine is in use. -/
structure EngineState where
  started : Bool := false
  browser : Bool := false
  context : Bool := false
  deriving DecidableEq, Repr

structure Engine (σ : Type) where
  state : σ → EngineState
  keep : EngineState → σ → σ
  start : Action σ Unit
  launch : BrowserKind → (headless : Bool) → Action σ Unit
  /-- Whether a launched browser still answers. -/
  connected : σ → Bool
  openContext : BrowserSettings → Action σ Unit
  openPage : Action σ Unit
  closeContext : Action σ Unit
  closeBrowser : Action σ Unit
  stop : Action σ Unit
  page : EnginePage σ

end Gleaner
