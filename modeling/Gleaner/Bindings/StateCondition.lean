import Gleaner.Json.Value
import Gleaner.Schema.Reading

/-!
# State conditions

Predicates on the state of a page, written as objects with a single key. `toJson` writes
them, `read?` accepts exactly objects whose one key names a predicate and whose value has its
form, and `coerce?` also takes the shorthands that authors use.
-/

set_option autoImplicit false

namespace Gleaner

inductive StateCondition where
  | present (selector : String)
  | visible (selector : String)
  | gone (selector : String)
  /-- The count differs from the one at the last checkpoint. -/
  | countChanged (selector : String)
  | countAtLeast (selector : String) (count : Nat)
  | urlContains (text : String)
  | urlMatches (pattern : String)
  | allOf (parts : List StateCondition)
  | anyOf (parts : List StateCondition)
  deriving Inhabited, BEq

namespace StateCondition

mutual

def toJson : StateCondition → Json
  | .present selector => .obj [("exists", .str selector)]
  | .visible selector => .obj [("visible", .str selector)]
  | .gone selector => .obj [("gone", .str selector)]
  | .countChanged selector => .obj [("countChanged", .str selector)]
  | .countAtLeast selector count =>
      .obj [("countAtLeast", .obj [("selector", .str selector), ("count", .int count)])]
  | .urlContains text => .obj [("urlContains", .str text)]
  | .urlMatches pattern => .obj [("urlMatches", .str pattern)]
  | .allOf parts => .obj [("and", .arr (listToJson parts))]
  | .anyOf parts => .obj [("or", .arr (listToJson parts))]

def listToJson : List StateCondition → List Json
  | [] => []
  | part :: rest => toJson part :: listToJson rest

end

def ofText? (key text : String) : Option StateCondition :=
  match key with
  | "exists" => some (.present text)
  | "visible" => some (.visible text)
  | "gone" => some (.gone text)
  | "countChanged" | "count_changed" => some (.countChanged text)
  | "urlContains" | "url_contains" => some (.urlContains text)
  | "urlMatches" | "url_matches" => some (.urlMatches text)
  | _ => none

def ofParts? (key : String) (parts : List StateCondition) : Option StateCondition :=
  match key with
  | "and" | "all_of" => some (.allOf parts)
  | "or" | "any_of" => some (.anyOf parts)
  | _ => none

/-- The predicate with a threshold: a selector and a count and nothing else. -/
def ofThreshold? (key : String) (fields : Fields) : Option StateCondition :=
  if (key = "countAtLeast" || key = "count_at_least") && fields.length = 2 then
    match Entries.find? "selector" fields, Entries.find? "count" fields with
    | some (.str selector), some count =>
        (Reading.natural 0 none count).toOption.map (.countAtLeast selector)
    | _, _ => none
  else none

mutual

def read? : Json → Option StateCondition
  | .obj [(key, .str text)] => ofText? key text
  | .obj [(key, .arr items)] => (readAll? items).bind (ofParts? key)
  | .obj [(key, .obj fields)] => ofThreshold? key fields
  | _ => none

def readAll? : List Json → Option (List StateCondition)
  | [] => some []
  | item :: rest => do
      let part ← read? item
      let parts ← readAll? rest
      return part :: parts

end

mutual

/-- Reads a condition, taking a bare selector and `selector` for presence and leaving out the
parts of `and` and `or` that are no conditions. -/
def coerce? : Json → Option StateCondition
  | .str text => if Text.isBlankText text then none else some (.present (Text.strip text))
  | .obj [(key, .str text)] => if key = "selector" then some (.present text) else ofText? key text
  | .obj [(key, .arr items)] => ofParts? key (coerceAll items)
  | .obj [(key, .obj fields)] => ofThreshold? key fields
  | _ => none

def coerceAll : List Json → List StateCondition
  | [] => []
  | item :: rest =>
      match coerce? item with
      | some part => part :: coerceAll rest
      | none => coerceAll rest

end

def reading : Reading StateCondition := fun value =>
  match read? value with
  | some condition => .ok condition
  | none => .complain .noCondition

end StateCondition

end Gleaner
