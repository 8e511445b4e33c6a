import Gleaner.Page
import Gleaner.Recipe.Command

/-!
# The state of a run

What one run of a recipe knows: the item it works on, what it has saved and processed, what
is focused, and its counters. A run begins with nothing and only adds to what it saved.
-/

set_option autoImplicit false

namespace Gleaner

structure Item where
  id : String
  content : String
  /-- Seconds since the epoch. -/
  savedAt : Float
  label : String := "item"

/-- The item of the list that a run works on. -/
structure CurrentItem where
  id : String
  index : Int
  ref : ElementRef
  text : String := ""
  href : Option String := none
  deriving DecidableEq, Repr

structure RunStats where
  commandsExecuted : Nat := 0
  itemsProcessed : Nat := 0
  scrollsPerformed : Nat := 0
  bindingFixes : Nat := 0
  durationMs : Float := 0

structure Run where
  /-- The ids of the items that are done, each once. -/
  processed : List String := []
  collected : List Item := []
  focus : Option ElementRef := none
  current : Option CurrentItem := none
  currentIndex : Int := -1
  /-- The details of the current item. -/
  content : Option String := none
  /-- The length of the list when it was last noted. -/
  checkpoint : Int := 0
  /-- Passes of repetitions since the last one with news. -/
  staleRounds : Nat := 0
  /-- No further command starts. -/
  stopped : Bool := false
  /-- The rest of the current item's body is left out. -/
  skipping : Bool := false
  stats : RunStats := {}
  startedAt : Float

namespace Run

/-- Makes an item current and focused; the content of the item before is forgotten. -/
def enter (item : CurrentItem) (run : Run) : Run :=
  { run with
    current := some item
    currentIndex := item.index
    focus := some item.ref
    content := none }

def isProcessed (id : String) (run : Run) : Bool :=
  run.processed.contains id

/-- Notes that an item is done, once. -/
def markProcessed (id : String) (run : Run) : Run :=
  if run.isProcessed id then run
  else
    { run with
      processed := run.processed ++ [id]
      stats := { run.stats with itemsProcessed := run.stats.itemsProcessed + 1 } }

def countCommand (run : Run) : Run :=
  { run with stats := { run.stats with commandsExecuted := run.stats.commandsExecuted + 1 } }

def countScroll (run : Run) : Run :=
  { run with stats := { run.stats with scrollsPerformed := run.stats.scrollsPerformed + 1 } }

def countFix (run : Run) : Run :=
  { run with stats := { run.stats with bindingFixes := run.stats.bindingFixes + 1 } }

end Run

namespace RunStats

def toJson (stats : RunStats) : Json :=
  .obj
    [("commands_executed", .int stats.commandsExecuted),
      ("items_processed", .int stats.itemsProcessed),
      ("scrolls_performed", .int stats.scrollsPerformed),
      ("binding_fixes", .int stats.bindingFixes), ("duration_ms", .float stats.durationMs)]

end RunStats

namespace Item

def toJson (item : Item) : Json :=
  .obj
    [("id", .str item.id), ("content", .str item.content), ("extracted_at", .float item.savedAt),
      ("label", .str item.label)]

end Item

end Gleaner
