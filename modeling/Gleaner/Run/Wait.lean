import Gleaner.Json.Writer
import Gleaner.Run.Look

/-!
# Waiting

Polling: look, and while the condition does not hold and the time is not up, pause and look
again. The last look is after the deadline, so a condition that holds by then is seen.
-/

set_option autoImplicit false

namespace Gleaner.Interp

variable {σ : Type} (host : Host σ)

/-- Looks until the check holds or the deadline has passed, at most so many times. -/
def pollUntil (check : Interp σ Bool) (deadline : Deadline σ) : Nat → Interp σ Bool
  | 0 => return false
  | looks + 1 => do
      if ← check then return true
      if deadline (← get).world then return false
      act (host.clock.pause (.ofMs host.settings.pollIntervalMs))
      pollUntil check deadline looks

/-- Whether a check comes to hold within a time. A pause takes a millisecond or more, so the
time in milliseconds bounds the looks. -/
def poll (check : Interp σ Bool) (timeoutMs : Nat) : Interp σ Bool := do
  let deadline ← liftM (host.clock.deadline timeoutMs (← get).world)
  pollUntil host check deadline (timeoutMs + 2)

/-- Waits for a condition; a fault tells that it did not come to hold. -/
def waitUntil (condition : StateCondition) : Interp σ Unit := do
  let timeoutMs := host.settings.waitTimeoutMs
  if ← poll host (holds host condition) timeoutMs then return ()
  let described := condition.toJson.write
  throw (.waitTimeout ("Timeout waiting for condition: " ++ described) timeoutMs (some described))

/-- Waits for the details: first for the end of loading, then for the details themselves. -/
def waitForDetails (b : PageBindings) : Interp σ Report := do
  if b.clickBehavior = some .inPlace then
    act (host.clock.pause (.ofMs host.settings.inlineDetailsWaitMs))
    return .waitSkipped
  if let some loading := b.states.loading then
    let gone := return !(← holds host loading)
    discard (poll host gone host.settings.loadingTimeoutMs)
  let panel := match b.detailsPanel with
    | some selector => if selector = "" then "body" else selector
    | none => "body"
  waitUntil host (b.states.detailsLoaded.getD (.present panel))
  act (host.clock.pause (.ofMs host.settings.detailsSettleMs))
  return .awaited .details

/-- Waits for a state of the page, by the record's predicate or by the usual one. -/
def waitFor (target : WaitTarget) : Interp σ Report := do
  let b ← bindings
  match target with
  | .page => waitUntil host (b.states.pageLoaded.getD (.present "body"))
  | .list =>
      match b.states.listLoaded with
      | some condition => waitUntil host condition
      | none => waitUntil host (.present (← liftM b.itemSelector))
  | .listUpdate =>
      match b.states.listUpdated with
      | some condition => waitUntil host condition
      | none => waitUntil host (.countChanged (← liftM b.itemSelector))
  | .details => return ← waitForDetails host b
  return .awaited target

end Gleaner.Interp
