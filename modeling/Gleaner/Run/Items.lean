import Gleaner.Digest.Sha1
import Gleaner.Run.Look

/-!
# Items of the list

The id of an item by the record's rule, and the choice of the item that becomes current. When
the rule finds nothing the id falls back to the item's own data id, then to a digest of its
text, then to its place, so that an item keeps its id from one look to the next.
-/

set_option autoImplicit false

namespace Gleaner

namespace ItemIdRule

/-- The first group of the first match of a pattern, or the match when there is no group; the
whole text when nothing matches. -/
def extract (pattern : Option String) (text : String) : Except Fault (Option String) :=
  if text = "" then .ok none
  else
    match pattern with
    | none => .ok (some text)
    | some source =>
        if source = "" then .ok (some text)
        else
          match Text.Search.read source with
          | .error error => .error (.badPattern error)
          | .ok search =>
              match search.find? text with
              | none => .ok (some text)
              | some found => .ok (found.group? (if search.groups = 0 then 0 else 1))

def candidate (rule : ItemIdRule) (item : ListItem) : Except Fault (Option String) :=
  match rule.source with
  | .data => .ok item.dataId
  | .attr =>
      .ok (match item.attrValue with
        | some value => if value = "" then item.dataId else some value
        | none => item.dataId)
  | .href => extract rule.pattern (item.href.getD "")
  | .text => extract rule.pattern (Text.strip item.text)

def fallback (item : ListItem) : String :=
  let text := Text.squeeze item.text
  if text = "" then "item_" ++ toString item.index
  else "item_" ++ Text.take 12 (Digest.sha1Hex text)

def itemId (rule : ItemIdRule) (item : ListItem) : Except Fault String := do
  match (← rule.candidate item).getD "", item.dataId.getD "" with
  | "", "" => return fallback item
  | "", dataId => return dataId
  | id, _ => return id

end ItemIdRule

def PageBindings.itemIdOf (b : PageBindings) (item : ListItem) : Except Fault String :=
  (b.itemId.getD {}).itemId item

def PageBindings.toCurrent (b : PageBindings) (item : ListItem) : Except Fault CurrentItem := do
  let id ← b.itemIdOf item
  return {
    id
    index := item.index
    ref := .indexed b.listItem item.index
    text := item.text
    href := item.href }

/-- The first item that is not yet processed; later items are not looked at. -/
def PageBindings.firstUnprocessed (b : PageBindings) (run : Run) :
    List ListItem → Except Fault (Option CurrentItem)
  | [] => .ok none
  | item :: rest => do
      let current ← b.toCurrent item
      if run.isProcessed current.id then b.firstUnprocessed run rest else return some current

namespace Interp

variable {σ : Type} (host : Host σ)

def listItems : Interp σ (List ListItem) := do
  let b ← bindings
  let selector ← liftM b.itemSelector
  let attrName := b.itemId.bind fun rule => if rule.source = .attr then rule.attrName else none
  act (host.page.items selector (b.itemId.bind (·.selector)) attrName)

def chooseItem (items : List ListItem) (first : ListItem) (which : ItemChoice) :
    Interp σ CurrentItem := do
  let b ← bindings
  let run ← run
  let fail (message : String) : Interp σ CurrentItem :=
    throw (.command message (some "GO_TO_ITEM"))
  match which with
  | .first => liftM (b.toCurrent first)
  | .next =>
      match items[(run.currentIndex + 1).toNat]? with
      | some item => liftM (b.toCurrent item)
      | none => fail "No more items in list"
  | .current =>
      match run.current with
      | some current => return current
      | none => fail "No current item"
  | .unprocessed =>
      match ← liftM (b.firstUnprocessed run items) with
      | some current => return current
      | none => fail "No unprocessed items"

/-- Makes an item current. The current item itself is only focused again. -/
def goToItem (which : ItemChoice) : Interp σ Report := do
  match ← listItems host with
  | [] => throw (.elementNotFound "No items found in list" (← bindings).listItem)
  | first :: rest =>
      let chosen ← chooseItem (first :: rest) first which
      if which = .current then
        update fun run => { run with focus := some chosen.ref }
      else update (Run.enter chosen)
      return .atItem chosen.id chosen.index

end Interp

end Gleaner
