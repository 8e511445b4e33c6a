import Gleaner.Run.Command

/-!
# Repair

When a command of the recipe itself fails for want of a better binding, a repairer may propose
a patch. A patch that is accepted counts as a fix, and the command gets one more try; in every
other case the failure stands.
-/

set_option autoImplicit false

namespace Gleaner

/-- The key of the binding that a command depends on. -/
def Command.bindingKey? : Command → Option String
  | .waitFor .page => some "PAGE_LOADED"
  | .waitFor .list => some "LIST_LOADED"
  | .waitFor .listUpdate => some "LIST_UPDATED"
  | .waitFor .details => some "DETAILS_LOADED"
  | .goTo "list" => some "LIST"
  | .goTo "details" => some "DETAILS_PANEL"
  | .goTo "searchBox" => some "SEARCH_BOX"
  | .goTo _ => some "ELEMENTS"
  | .goToFilter _ => some "FILTERS"
  | .goToItem _ => some "LIST_ITEM"
  | .extractDetails _ => some "DETAILS_CONTENT"
  | _ => none

namespace Session

variable {σ : Type}

def observe {α : Type} (action : Action σ α) : StateM (Session σ) (Except Fault α) :=
  ExceptT.run (Interp.act action)

def domText (host : Host σ) : StateM (Session σ) String := do
  match ← observe host.page.state with
  | .ok state => return state.elementTree
  | .error _ => return ""

def patch (clock : Clock σ) (changes : Fields) (session : Session σ) :
    Except Fault (Session σ) := do
  let bindings ← session.bindings.merge (clock.time session.world) changes
  return { session with bindings }

/-- Asks the repairer for a patch, if there is anything to ask for. -/
def proposal (host : Host σ) (command : Command) (failure : Outcome) :
    StateM (Session σ) Fields := do
  match failure, command.bindingKey?, host.repairer with
  | .failed error true, some binding, some repairer =>
      let current := (← get).bindings.value? binding
      let dom ← domText host
      match ← observe (repairer { command, binding, current, error, dom }) with
      | .ok (some changes) => return changes
      | _ => return []
  | _, _, _ => return []

/-- Runs a command once more if a patch for it is proposed and accepted. -/
def repairAndRetry (host : Host σ) (command : Command) (failure : Outcome) :
    StateM (Session σ) Outcome := do
  let changes ← proposal host command failure
  if changes.isEmpty then return failure
  match (← get).patch host.clock changes with
  | .error _ => return failure
  | .ok patched =>
      set { patched with run := patched.run.countFix }
      match ← command.run host with
      | .ok report => return .ok report
      | .failed error _ => return .failed ("Command failed after fix: " ++ error) false

end Session

end Gleaner
