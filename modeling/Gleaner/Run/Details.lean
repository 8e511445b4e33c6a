import Gleaner.Run.Look

/-!
# Taking data

The details of the current item are read from the first group of selectors that yields text,
with some tries; when none does, the item's own text stands in. Saving pairs the current item
with its details, and the save that reaches the bound stops the run.
-/

set_option autoImplicit false

namespace Gleaner

/-- The texts that are not blank, trimmed and joined by line ends. -/
def joinTexts (texts : List String) : String :=
  "\n".intercalate ((texts.filter fun text => !Text.isBlankText text).map Text.strip)

/-- The groups of selectors to read the details from, in order of preference. -/
def PageBindings.detailGroups (b : PageBindings) (given : Option (List String)) :
    List (List String) :=
  match given with
  | some (selector :: rest) => [selector :: rest]
  | _ =>
      if b.clickBehavior = some .inPlace then []
      else
        let panel := match b.detailsPanel with
          | some selector => if selector = "" then [] else [selector]
          | none => []
        [b.detailsContent, panel].filter fun group => !group.isEmpty

namespace Interp

variable {σ : Type} (host : Host σ)

def readGroup : List String → Interp σ (List String)
  | [] => return []
  | selector :: rest => do
      let texts ← act (host.page.texts selector)
      return texts ++ (← readGroup rest)

/-- The text of the first group that has any. -/
def readGroups : List (List String) → Interp σ String
  | [] => return ""
  | group :: rest => do
      let content := joinTexts (← readGroup host group)
      if content = "" then readGroups rest else return content

/-- Reads the groups until there is text, so many times at most, with pauses between. -/
def readPatiently (groups : List (List String)) : Nat → Interp σ String
  | 0 => return ""
  | tries + 1 => do
      let content ← readGroups host groups
      if content = "" && tries ≠ 0 then
        act (host.clock.pause (.ofMs host.settings.extractRetryDelayMs))
        readPatiently groups tries
      else return content

def extractDetails (given : Option (List String)) : Interp σ Report := do
  let b ← bindings
  let groups := b.detailGroups given
  let found ← if groups.isEmpty then pure ""
    else readPatiently host groups host.settings.extractRetries
  let ownText := Text.strip (((← run).current.map (·.text)).getD "")
  let content := if found = "" then ownText else found
  if content = "" then
    throw (.elementNotFound "No content extracted" ((groups.flatten.head?).getD b.listItem))
  update fun run => { run with content := some content }
  return .extracted content.length

def save (label : String) : Interp σ Report := do
  let session ← get
  match session.run.current, session.run.content with
  | some current, some content => do
      if content = "" then
        throw (.command "No current item or content to save" (some "SAVE"))
      let savedAt := host.clock.time session.world
      update fun run =>
        let collected := run.collected ++ [{ id := current.id, content, savedAt, label }]
        let full := session.maxItems.any fun most => most ≠ 0 && most ≤ collected.length
        { run with collected, stopped := run.stopped || full }
      return .counted (← run).collected.length
  | _, _ => throw (.command "No current item or content to save" (some "SAVE"))

def markDone : Interp σ Report := do
  match (← run).current with
  | none => throw (.command "No current item to mark done" (some "MARK_DONE"))
  | some current =>
      update (Run.markProcessed current.id)
      return .marked current.id

end Interp

end Gleaner
