import Gleaner.Recipe.Command
import Gleaner.Fault
import Gleaner.Text.LowerCase

/-!
# Outcomes of commands

A command succeeds with a report of what it did, or fails with a message. A failure that a
better binding could have avoided is repairable.
-/

set_option autoImplicit false

namespace Gleaner

inductive Report where
  | done
  | opened (url : String)
  | awaited (target : WaitTarget)
  /-- There was nothing to wait for. -/
  | waitSkipped
  | focused (selector : String)
  | atItem (id : String) (index : Int)
  | clicked (hit : Bool)
  /-- The current item shows its details in place and was not clicked. -/
  | shownInPlace
  | selected (option : String)
  | checkChanged (changed : Bool)
  | scrolled (moved : Bool)
  | extracted (length : Nat)
  | counted (count : Int)
  | marked (id : String)
  | visited (handled skipped : Nat)
  | took (thenBranch : Bool)
  | repeated (rounds : Nat) (capped : Bool)
  deriving DecidableEq, Repr

namespace Report

def toFields : Report → Fields
  | .done => []
  | .opened url => [("url", .str url)]
  | .awaited target => [("target", .str target.text)]
  | .waitSkipped => [("skipped", .bool true)]
  | .focused selector => [("selector", .str selector)]
  | .atItem id index => [("id", .str id), ("index", .int index)]
  | .clicked hit => [("clicked", .bool hit)]
  | .shownInPlace => [("clicked", .bool false), ("reason", .str "inline")]
  | .selected option => [("option", .str option)]
  | .checkChanged changed => [("changed", .bool changed)]
  | .scrolled moved => [("scrolled", .bool moved)]
  | .extracted length => [("contentLength", .int length)]
  | .counted count => [("count", .int count)]
  | .marked id => [("id", .str id)]
  | .visited handled skipped => [("handled", .int handled), ("skipped", .int skipped)]
  | .took thenBranch => [("branch", .str (if thenBranch then "then" else "else"))]
  | .repeated rounds capped =>
      ("iterations", .int rounds) :: if capped then [("capped", .bool true)] else []

end Report

inductive Outcome where
  | ok (report : Report)
  | failed (error : String) (repairable : Bool)
  deriving DecidableEq, Repr

/-- Words of messages that speak of a selector that does not fit the page. -/
def bindingErrorWords : List String :=
  ["timeout", "waiting for", "not found", "no element", "selector", "cannot find",
    "does not exist", "not defined"]

/-- Whether a message speaks of a selector that does not fit the page. -/
def isBindingError (message : String) : Bool :=
  let text := String.ofList (message.toList.map Text.lowerCase)
  bindingErrorWords.any (Text.occursIn · text)

namespace Outcome

def isOk : Outcome → Bool
  | .ok _ => true
  | .failed _ _ => false

def ofFault (fault : Fault) : Outcome :=
  match fault with
  | .elementNotFound message _ => .failed message true
  | .bindingMissing message _ _ => .failed message true
  | .waitTimeout message _ _ => .failed message true
  | .unknownCommand _ => .failed fault.message false
  | .command message _ => .failed message false
  | _ => .failed fault.brief (isBindingError fault.brief)

end Outcome

end Gleaner
