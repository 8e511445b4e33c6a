import Gleaner.Bindings.Complete
import Gleaner.Recipe.Reader
import Gleaner.Recipe.Wire

/-!
# Building recipes by call

Commands, conditions and recipes can be made by calling named builders with positional and
named arguments. A table says which parameters a builder has and which form it fills; the
form is then read like any other, so a built value obeys the same rules as a parsed one.
-/

set_option autoImplicit false

namespace Gleaner.Builder

inductive Product where
  | command
  | condition
  | goal
  deriving DecidableEq, Repr

/-- A parameter: its name, the field it fills, its value when it is not given, and whether
any sequence is taken for a list. -/
structure Param where
  name : String
  field : String
  default : Option Json := none
  sequence : Bool := false

private def param (name : String) : Param := ⟨name, name, none, false⟩

private def withDefault (name : String) (default : Json) : Param :=
  ⟨name, name, some default, false⟩

private def sequence (name field : String) (default : Option Json) : Param :=
  ⟨name, field, default, true⟩

inductive Form where
  /-- One field for each parameter. -/
  | fields (product : Product) (tag : String) (params : List Param)
  /-- Any number of parts. -/
  | parts (product : Product) (tag : String)
  /-- No parameters, and fields that are always the same. -/
  | fixed (tag : String) (fields : Fields)
  | recipe

def table : List (String × Form) :=
  [("open_page", .fields .command "OPEN_PAGE" [param "url"]),
    ("go_back", .fields .command "GO_BACK" []),
    ("refresh", .fields .command "REFRESH" []),
    ("wait_for", .fields .command "WAIT_FOR" [param "target"]),
    ("wait", .fields .command "WAIT" [param "seconds"]),
    ("go_to", .fields .command "GO_TO" [param "name"]),
    ("go_to_filter", .fields .command "GO_TO_FILTER" [param "name"]),
    ("go_to_item", .fields .command "GO_TO_ITEM" [withDefault "which" (.str "next")]),
    ("type_text", .fields .command "TYPE" [param "text"]),
    ("submit", .fields .command "SUBMIT" []),
    ("click", .fields .command "CLICK" []),
    ("click_if_exists", .fields .command "CLICK_IF_EXISTS" [param "name"]),
    ("select", .fields .command "SELECT" [param "option"]),
    ("clear", .fields .command "CLEAR" []),
    ("set_checked", .fields .command "SET_CHECKED" [withDefault "checked" (.bool true)]),
    ("scroll", .fields .command "SCROLL"
      [withDefault "target" (.str "list"), withDefault "direction" (.str "down")]),
    ("scroll_if_not_end", .fields .command "SCROLL_IF_NOT_END"
      [withDefault "target" (.str "list")]),
    ("scroll_to_top", .fixed "SCROLL_TO" [("percent", .int 0)]),
    ("scroll_to_bottom", .fixed "SCROLL_TO" [("percent", .int 100)]),
    ("extract_details", .fields .command "EXTRACT_DETAILS" [withDefault "selectors" .null]),
    ("save", .fields .command "SAVE" [⟨"label", "save_as", some (.str "item"), false⟩]),
    ("mark_done", .fields .command "MARK_DONE" []),
    ("for_each_item", .fields .command "FOR_EACH_ITEM_IN_LIST"
      [sequence "body" "body" none, withDefault "skip_processed" (.bool true)]),
    ("if_", .fields .command "IF"
      [param "condition", sequence "then" "then" none, sequence "else_" "else_" (some (.arr []))]),
    ("repeat", .fields .command "REPEAT" [sequence "body" "body" none, param "until"]),
    ("checkpoint_count", .fields .command "CHECKPOINT_COUNT" []),
    ("continue_", .fields .command "CONTINUE" []),
    ("end", .fields .command "END" []),
    ("exists", .fields .condition "EXISTS" [param "name"]),
    ("visible", .fields .condition "VISIBLE" [param "name"]),
    ("list_end", .fields .condition "LIST_END" []),
    ("page_end", .fields .condition "PAGE_END" []),
    ("new_items", .fields .condition "NEW_ITEMS" []),
    ("not_", .fields .condition "NOT" [param "condition"]),
    ("all_of", .parts .condition "AND"),
    ("any_of", .parts .condition "OR"),
    ("collected", .fields .goal "COLLECTED" [param "count"]),
    ("no_more_items", .fields .goal "NO_MORE_ITEMS" []),
    ("max_scrolls", .fields .goal "MAX_SCROLLS" [param "count"]),
    ("until_all", .parts .goal "AND"),
    ("until_any", .parts .goal "OR"),
    ("recipe", .recipe)]

private def wrongCall (text : String) : Fault := .foreign "TypeError" text

/-- The items of anything that is a sequence: list items, characters, keys. -/
def itemsOf : Json → Except Fault (List Json)
  | .arr items => .ok items
  | .str text => .ok (text.toList.map fun c => .str (.singleton c))
  | .obj fields => .ok (fields.map fun entry => .str entry.1)
  | other => .error (wrongCall ("'" ++ other.kindName ++ "' object is not iterable"))

/-- `'a', 'b', and 'c'` -/
private def andList : List String → String
  | [] => ""
  | [one] => Text.quoted one
  | [one, other] => Text.quoted one ++ " and " ++ Text.quoted other
  | names =>
      ", ".intercalate (names.dropLast.map Text.quoted) ++ ", and " ++
        Text.quoted (names.getLast?.getD "")

private def plural (count : Nat) : String := if count = 1 then "" else "s"

def bind (builder : String) (params : List Param) (args : List Json) (named : Fields) :
    Except Fault (List (Param × Json)) := do
  let call := builder ++ "()"
  let positional := params.zip args
  for (key, _) in named do
    if positional.any (·.1.name = key) then
      throw (wrongCall (call ++ " got multiple values for argument " ++ Text.quoted key))
    if !params.any (·.name = key) then
      throw (wrongCall (call ++ " got an unexpected keyword argument " ++ Text.quoted key))
  if args.length > params.length then
    let least := params.countP (·.default.isNone)
    let most := params.length
    let range := if least = most then toString most else s!"from {least} to {most}"
    let verb := if args.length = 1 then "was" else "were"
    throw (wrongCall (call ++ s!" takes {range} positional argument" ++ plural most ++
      s!" but {args.length} {verb} given"))
  let values := params.mapIdx fun i p =>
    (p, (args[i]?).or ((Entries.find? p.name named).or p.default))
  let missing := (values.filter (·.2.isNone)).map (·.1.name)
  if !missing.isEmpty then
    throw (wrongCall (call ++ s!" missing {missing.length} required positional argument" ++
      plural missing.length ++ ": " ++ andList missing))
  return values.filterMap fun (p, value) => value.map (p, ·)

/-- Reads a form and writes it back; problems are told from inside the form. -/
def settle (product : Product) (tag : String) (fields : Fields) : Except Fault Json :=
  let value : Json := .obj (("type", .str tag) :: fields)
  let read : Checked Json :=
    match product with
    | .command => Command.toJson <$> Command.read value
    | .condition => Condition.toJson <$> Condition.read value
    | .goal => Until.toJson <$> Until.read value
  read.toExcept.mapError fun problems => .malformed tag problems.inside

private def recipeParams : List Param :=
  [param "name", sequence "commands" "commands" none, withDefault "max_items" .null,
    withDefault "timeout_ms" .null, withDefault "description" (.str "")]

/-- A recipe from bound arguments; its limits are read before the rest. -/
def buildRecipe (now : Float) (values : Fields) : Except Fault Recipe := do
  let value (key : String) : Json := (Entries.find? key values).getD .null
  let commands ← itemsOf (value "commands")
  let limits ← (RunLimits.read
    (.obj [("max_items", value "max_items"), ("timeout_ms", value "timeout_ms")])).toExcept.mapError
      (Fault.malformed "RecipeConfig")
  let recipe ← (Recipe.ofFields (timedId "recipe" now)
    [("name", value "name"), ("description", value "description"),
      ("commands", .arr commands)]).toExcept.mapError (Fault.malformed "Recipe")
  return { recipe with limits }

/-- Calls a builder; the result is in JSON form. -/
def call (now : Float) (builder : String) (args : List Json) (named : Fields) :
    Except Fault Json := do
  match Entries.find? builder table with
  | none =>
      throw (.foreign "AttributeError"
        ("module has no attribute " ++ Text.quoted builder))
  | some (.fields product tag params) =>
      let values ← bind builder params args named
      let fields ← values.mapM fun (p, value) => do
        if p.sequence then return (p.field, Json.arr (← itemsOf value))
        else return (p.field, value)
      settle product tag fields
  | some (.parts product tag) =>
      match named with
      | [] => settle product tag [("conditions", .arr args)]
      | (key, _) :: _ =>
          throw (wrongCall (builder ++ "() got an unexpected keyword argument " ++ Text.quoted key))
  | some (.fixed tag fields) =>
      let _ ← bind builder [] args named
      settle .command tag fields
  | some .recipe =>
      let values ← bind builder recipeParams args named
      let recipe ← buildRecipe now (values.map fun (p, value) => (p.name, value))
      return recipe.toJson

mutual

/-- Evaluates calls written as objects with a builder under `fn`, from the inside out. -/
def eval (now : Float) : Json → Except Fault Json
  | .obj fields => do
      match Entries.find? "fn" fields with
      | some (.str builder) =>
          let inner ← evalArguments now fields
          let args :=
            match Entries.find? "args" inner with
            | some (.arr args) => args
            | _ => []
          let named :=
            match Entries.find? "kwargs" inner with
            | some (.obj named) => named
            | _ => []
          call now builder args named
      | _ => return .obj fields
  | .arr items => Json.arr <$> evalItems now items
  | other => return other

def evalItems (now : Float) : List Json → Except Fault (List Json)
  | [] => return []
  | item :: rest => do
      let item ← eval now item
      return item :: (← evalItems now rest)

def evalArguments (now : Float) : List (String × Json) → Except Fault Fields
  | [] => return []
  | (key, .arr items) :: rest => do
      let items ← evalItems now items
      return (key, .arr items) :: (← evalArguments now rest)
  | (key, .obj named) :: rest => do
      let named ← evalNamed now named
      return (key, .obj named) :: (← evalArguments now rest)
  | entry :: rest => return entry :: (← evalArguments now rest)

def evalNamed (now : Float) : List (String × Json) → Except Fault Fields
  | [] => return []
  | (key, value) :: rest => do
      let value ← eval now value
      return (key, value) :: (← evalNamed now rest)

end

end Gleaner.Builder
