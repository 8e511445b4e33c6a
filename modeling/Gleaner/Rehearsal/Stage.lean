import Gleaner.Entries
import Gleaner.Page

/-!
# Stages

A page that follows a script: a list of items of which some are visible, a details panel that
shows the active item, and counts, texts and controls for other selectors. Scrolling and some
clicks reveal more items; some clicks go to the next list.
-/

set_option autoImplicit false

namespace Gleaner.Rehearsal

structure StageItem where
  id : Option String := none
  text : String := ""
  href : Option String := none
  attributes : Entries String := []
  details : List String := []

/-- From a time on, a selector has a count. -/
structure Cue where
  ms : Int
  selector : String
  count : Int

structure Stage where
  url : String := "about:blank"
  title : String := "Jobs"
  dom : String := ""
  visibleText : Option String := none
  /-- What the next snapshots show. -/
  doms : List String := []
  scrollY : Number := .int 0
  scrollHeight : Number := .int 3000
  viewportHeight : Number := .int 1000
  items : List StageItem := []
  /-- The lists that follow the present one. -/
  nextPages : List (List StageItem) := []
  visible : Nat := 0
  /-- So many items a scroll reveals. -/
  reveal : Nat := 0
  /-- The item whose details are shown. -/
  active : Option Nat := none
  listItem : String := ".job-card"
  details : String := ".job-details"
  selectors : Entries Int := []
  hidden : List String := []
  texts : Entries (List String) := []
  timeline : List Cue := []
  revealOnClick : List String := []
  nextOnClick : List String := []
  closeOnClick : List String := []
  options : Entries (List String) := []
  checked : Entries Bool := []

namespace Stage

def count (us : Int) (stage : Stage) (selector : String) : Int :=
  let due := stage.timeline.filter fun cue => cue.selector = selector && cue.ms * 1000 ≤ us
  match due.getLast? with
  | some cue => cue.count
  | none =>
      if selector = stage.listItem then stage.visible
      else if selector = stage.details then if stage.active.isSome then 1 else 0
      else (Entries.find? selector stage.selectors).getD (if selector = "body" then 1 else 0)

def revealMore (stage : Stage) : Stage :=
  { stage with visible := min stage.items.length (stage.visible + stage.reveal) }

/-- Goes to the next list, if there is one. -/
def nextPage (stage : Stage) : Stage :=
  match stage.nextPages with
  | [] => stage
  | items :: rest =>
      { stage with items, nextPages := rest, visible := items.length, active := none }

def toggle (selector : String) (stage : Stage) : Stage :=
  let was := (Entries.find? selector stage.checked).getD false
  { stage with checked := Entries.put selector (!was) stage.checked }

def press (selector : String) (stage : Stage) : Stage :=
  let stage := stage.toggle selector
  let stage := if stage.revealOnClick.contains selector then stage.revealMore else stage
  let stage :=
    if stage.closeOnClick.contains selector then { stage with active := none } else stage
  if stage.nextOnClick.contains selector then stage.nextPage else stage

/-- A click; whether there was anything to click, and the stage after it. -/
def click (us : Int) (ref : ElementRef) (stage : Stage) : Bool × Stage :=
  let pressed (selector : String) :=
    if stage.count us selector = 0 then (false, stage) else (true, stage.press selector)
  match ref with
  | .indexed selector index =>
      if selector = stage.listItem then
        if index < stage.visible then (true, { stage with active := some index.toNat })
        else (false, stage)
      else pressed selector
  | .selector selector => pressed selector

def scrollDown (stage : Stage) : Stage :=
  let bottom := stage.scrollHeight - stage.viewportHeight
  { stage with scrollY := .least (stage.scrollY + stage.viewportHeight) bottom }.revealMore

def scrollUp (stage : Stage) : Stage :=
  let up := stage.scrollY - stage.viewportHeight
  { stage with scrollY := if Number.less (.int 0) up then up else .int 0 }

def scrollTo (percent : Float) (stage : Stage) : Stage :=
  let range := stage.scrollHeight - stage.viewportHeight
  { stage with scrollY := .float ((range * .float percent).toFloat / 100) }

def listed (attrName : Option String) (stage : Stage) : List ListItem :=
  (stage.items.take stage.visible).zipIdx.map fun (item, index) =>
    { index := index
      text := item.text
      href := item.href
      dataId := item.id
      attrValue := attrName.bind fun name =>
        if name = "" then none else Entries.find? name item.attributes }

/-- The texts of a selector; the details panel has those of the active item. -/
def textsOf (selector : String) (stage : Stage) : List String :=
  match Entries.find? selector stage.texts with
  | some texts => texts
  | none =>
      if selector = stage.details then
        ((stage.active.bind (stage.items[·]?)).map (·.details)).getD []
      else []

def state (stage : Stage) : PageState :=
  { url := stage.url
    title := stage.title
    scrollY := stage.scrollY
    scrollHeight := stage.scrollHeight
    viewportHeight := stage.viewportHeight
    elementTree := stage.dom }

def forSnapshot (stage : Stage) : Stage :=
  match stage.doms with
  | [] => stage
  | dom :: rest => { stage with dom, doms := rest }

def snapshot (stage : Stage) : Snapshot :=
  { url := stage.url
    title := stage.title
    elements := stage.dom
    visibleText := stage.visibleText }

end Stage

end Gleaner.Rehearsal
