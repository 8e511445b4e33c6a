import Gleaner.Json.Value

/-!
# Tidying command lists

Authors of recipes, models among them, write `commands` where the body of a loop belongs, and
put other things among the commands. Tidying gives every loop a `body`, makes every body and
branch a list, and replaces what is no object by a short wait. It goes into bodies and
branches, and changes nothing else.
-/

set_option autoImplicit false

namespace Gleaner.Tidy

def shortWait : Json :=
  .obj [("type", .str "WAIT"), ("seconds", .float 0.1)]

/-- Which fields of a command hold commands. -/
inductive Shape where
  /-- One body, under `body` or, failing that, `commands`. -/
  | loop
  /-- Two branches. -/
  | choice
  | plain
  deriving DecidableEq, Repr

def Shape.of (fields : Fields) : Shape :=
  match Entries.find? "type" fields with
  | some (.str "FOR_EACH_ITEM_IN_LIST") => .loop
  | some (.str "REPEAT") => .loop
  | some (.str "IF") => .choice
  | _ => .plain

def Shape.nested (shape : Shape) (fields : Fields) : List String :=
  match shape with
  | .loop => if Entries.has "body" fields then ["body"] else ["commands"]
  | .choice => ["then", "else"]
  | .plain => []

/-- Puts the list of a loop under `body`; a loop without one gets an empty body. -/
def Shape.settle (shape : Shape) (fields : Fields) : Fields :=
  match shape with
  | .loop =>
      if Entries.has "body" fields then fields
      else
        match Entries.find? "commands" fields with
        | some body => Entries.put "body" body (Entries.erase "commands" fields)
        | none => Entries.put "body" (.arr []) fields
  | _ => fields

mutual

def commands : Json → List Json
  | .arr items => entries items
  | _ => []

def entries : List Json → List Json
  | [] => []
  | item :: rest => entry item :: entries rest

def entry : Json → Json
  | .obj fields =>
      let shape := Shape.of fields
      .obj (shape.settle (nestedFields (shape.nested fields) fields))
  | _ => shortWait

def nestedFields (keys : List String) : List (String × Json) → List (String × Json)
  | [] => []
  | (key, value) :: rest =>
      (key, if keys.contains key then .arr (commands value) else value) ::
        nestedFields keys rest

end

end Gleaner.Tidy
