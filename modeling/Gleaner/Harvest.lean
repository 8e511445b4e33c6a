import Gleaner.Advisor.Basic
import Gleaner.Job
import Gleaner.Run.Execute
import Gleaner.Store

/-!
# Harvests

A recipe run on a site from end to end: bindings are taken from the store when they are fresh
and complete, and discovered otherwise; the recipe runs; a run that failed for want of better
bindings and saved nothing gets one more attempt with fresh ones. Bindings that worked are
saved, unless somebody else changed them in the meantime.
-/

set_option autoImplicit false

namespace Gleaner

structure Harvester (σ : Type) where
  page : Page σ
  clock : Clock σ
  advisor : Advisor σ
  store : Store σ
  extractor : Option (JobExtractor σ) := none
  settings : Settings := {}
  /-- Tells how the harvest is getting on. -/
  progress : String → Action σ Unit

structure HarvestStats where
  attempts : Nat := 0
  run : RunStats := {}

structure Harvest where
  success : Bool := false
  items : List Item := []
  jobs : List Job := []
  bindings : Option PageBindings := none
  error : Option String := none
  stats : HarvestStats := {}

/-- Bindings for an attempt, and the version to expect in the store when they are saved. -/
structure Acquired where
  bindings : PageBindings
  expected : Option Int

def RunStats.add (total stats : RunStats) : RunStats :=
  { commandsExecuted := total.commandsExecuted + stats.commandsExecuted
    itemsProcessed := total.itemsProcessed + stats.itemsProcessed
    scrollsPerformed := total.scrollsPerformed + stats.scrollsPerformed
    bindingFixes := total.bindingFixes + stats.bindingFixes
    durationMs := total.durationMs }

def Recipe.startUrl? (recipe : Recipe) : Option String :=
  recipe.commands.findSome? fun command =>
    match command with
    | .openPage url => some url
    | _ => none

namespace Harvest

def toJson (harvest : Harvest) : Json :=
  let stats := harvest.stats.run
  .obj
    [("success", .bool harvest.success), ("items", .arr (harvest.items.map Item.toJson)),
      ("jobs", .arr (harvest.jobs.map Job.toJson)),
      ("bindings", (harvest.bindings.map PageBindings.toJson).getD .null),
      ("error", .ofString? harvest.error),
      ("stats", .obj
        [("duration_ms", .float stats.durationMs), ("attempts", .int harvest.stats.attempts),
          ("commands_executed", .int stats.commandsExecuted),
          ("items_processed", .int stats.itemsProcessed),
          ("scrolls_performed", .int stats.scrollsPerformed),
          ("binding_fixes", .int stats.bindingFixes)])]

end Harvest

namespace Harvester

variable {σ : Type} (harvester : Harvester σ)

def maxAttempts : Nat := 2

/-- Looks again while the snapshot is short, so many times more. -/
def settledSnapshot : (more : Nat) → Action σ Snapshot
  | 0 => harvester.page.snapshot
  | more + 1 => do
      let snapshot ← harvester.page.snapshot
      let shown := (Text.strip snapshot.elements).length
      if harvester.settings.bindings.minSnapshotChars ≤ shown then return snapshot
      harvester.clock.pause (.seconds 1)
      settledSnapshot more

def snapshotOf (url : String) : Action σ Snapshot := do
  if url ≠ "" && harvester.page.url (← get) ≠ url then harvester.page.navigate url
  harvester.settledSnapshot 2

def objection (now : Float) (stored : PageBindings) : Option String :=
  let maxAge := harvester.settings.bindings.maxAgeHours
  let report := stored.report
  if maxAge < stored.ageHours now then
    some ("Stored bindings " ++ stored.id ++ " are older than " ++
      Decimal.Layout.literal.text maxAge ++ "h")
  else if !report.isValid then
    some ("Stored bindings " ++ stored.id ++ " are invalid: " ++ "; ".intercalate report.errors)
  else none

/-- Bindings discovered on the page; they take the place of a stored record. -/
def rediscover (url : String) (stored : Option PageBindings) :
    Action σ (Except String Acquired) := do
  let snapshot ← harvester.snapshotOf url
  match ← harvester.advisor.discover (some snapshot), stored with
  | .error reason, _ => return .error reason
  | .ok found, some old =>
      return .ok
        ⟨{ found.bindings with id := old.id, version := old.version + 1 }, some old.version⟩
  | .ok found, none => return .ok ⟨found.bindings, none⟩

/-- Bindings for a recipe: stored ones if they will do and `fresh` does not forbid it. -/
def acquire (recipe : Recipe) (fresh : Bool) : Action σ (Except String Acquired) := do
  let start := recipe.startUrl?.getD ""
  let shown := harvester.page.url (← get)
  let url := if start = "" then shown else start
  match ← harvester.store.query url with
  | none => harvester.rediscover url none
  | some stored =>
      if fresh then harvester.rediscover url (some stored)
      else
        match harvester.objection (harvester.clock.time (← get)) stored with
        | some reason =>
            harvester.progress reason
            harvester.rediscover url (some stored)
        | none =>
            harvester.progress s!"Using stored bindings {stored.id} v{stored.version}"
            return .ok ⟨stored, some stored.version⟩

/-- Saves bindings, unless the stored record has changed since. -/
def saveBindings (b : PageBindings) (expected : Option Int) : Action σ Unit := do
  let saved ← tryCatch (do harvester.store.put b expected; return true) fun fault =>
    match fault with
    | .staleBindings _ _ _ => return false
    | _ => throw fault
  if saved then harvester.progress s!"Saved bindings {b.id} v{b.version}"

def runWith (recipe : Recipe) (b : PageBindings) :
    Action σ (RunResult × PageBindings) := fun world =>
  let host : Host σ :=
    { page := harvester.page
      clock := harvester.clock
      settings := harvester.settings.executor
      repairer := some harvester.advisor.repairer }
  let (result, session) :=
    Session.execute host recipe |>.run (Session.start harvester.clock b world)
  (result.map fun result => (result, session.bindings), session.world)

/-- Attempts, so many more; `fresh` asks for fresh bindings. -/
def attempts (recipe : Recipe) : (more : Nat) → (fresh : Bool) → Harvest → Action σ Harvest
  | 0, _, harvest => return harvest
  | more + 1, fresh, harvest => do
      let attempt := maxAttempts - more
      let harvest := { harvest with stats := { harvest.stats with attempts := attempt } }
      harvester.progress s!"Attempt {attempt}/{maxAttempts}: acquiring bindings"
      match ← harvester.acquire recipe fresh with
      | .error reason =>
          let error := if reason = "" then "Binding discovery failed" else reason
          harvester.progress ("Binding discovery failed: " ++ error)
          attempts recipe more true { harvest with error := some error }
      | .ok acquired =>
          let b := acquired.bindings
          let title := if recipe.name = "" then recipe.id else recipe.name
          harvester.progress s!"Executing '{title}' with bindings {b.id} v{b.version}"
          let (result, b) ← harvester.runWith recipe b
          let harvest := { harvest with
            success := result.success
            items := result.items
            bindings := some b
            error := result.error
            stats := { harvest.stats with run := harvest.stats.run.add result.stats } }
          match result.error with
          | none =>
              harvester.progress s!"Collected {result.items.length} items"
              harvester.saveBindings b acquired.expected
              return harvest
          | some error =>
              harvester.progress ("Run failed: " ++ error)
              if more ≠ 0 && result.items.isEmpty && isBindingError error then
                harvester.progress "Failure looks binding-related, rediscovering"
                attempts recipe more true harvest
              else return harvest

def structured (harvest : Harvest) : Action σ Harvest := do
  match harvester.extractor with
  | some extractor =>
      if harvest.items.isEmpty then return harvest
      harvester.progress s!"Structuring {harvest.items.length} items"
      return { harvest with jobs := ← extractor.extractMany harvest.items }
  | none => return harvest

def harvest (recipe : Recipe) (fresh : Bool) : Action σ Harvest := do
  let started := harvester.clock.time (← get)
  let harvest ← harvester.attempts recipe maxAttempts fresh {}
  let harvest ← harvester.structured harvest
  let durationMs := (harvester.clock.time (← get) - started) * 1000
  return { harvest with
    stats := { harvest.stats with run := { harvest.stats.run with durationMs } } }

end Harvester

end Gleaner
