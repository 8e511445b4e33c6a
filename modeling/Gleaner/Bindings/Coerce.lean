import Gleaner.Bindings.Wire
import Gleaner.Text.Alphanumeric

/-!
# Coercing raw bindings

Raw bindings come from models and from people. Coercion brings each key to its capital
spelling and each value to the form that is written, takes the usual shorthands, and drops
unknown keys, nulls and values that cannot be used. It applies no defaults.
-/

set_option autoImplicit false

namespace Gleaner.Coerce

/-- A name as attributes have it: a letter or low line, then word characters and hyphens. -/
def isAttributeName : List Char → Bool
  | c :: rest =>
      (c.isAlpha || c = '_') && rest.all fun c => Text.isWord c || c = '-'
  | [] => false

/-- A text that is no blank, trimmed. -/
def trimmed? : Json → Option String
  | .str s => if Text.isBlankText s then none else some (Text.strip s)
  | _ => none

/-- A rule as an object, or a text that names an attribute or selects a link. -/
def itemId? : Json → Option Json
  | .obj fields => some (.obj fields)
  | value =>
      (trimmed? value).map fun text =>
        if isAttributeName text.toList then
          .obj [("from", .str "attribute"), ("attribute", .str text)]
        else .obj [("from", .str "href"), ("selector", .str text)]

/-- A filter as an object with a selector, or the selector alone. -/
def filter? : Json → Option Json
  | .obj fields =>
      if (Entries.find? "selector" fields).any Json.truthy then some (.obj fields) else none
  | value => (trimmed? value).map fun text => .obj [("selector", .str text)]

def usable (read? : Json → Option Json) (fields : Fields) : Fields :=
  fields.filterMap fun (key, value) => (read? value).map (key, ·)

def value? (wire : String) (value : Json) : Option Json :=
  if value.isNull then none
  else if BindingKey.isCondition wire then (StateCondition.coerce? value).map StateCondition.toJson
  else if wire = "ITEM_ID" then itemId? value
  else if wire = "DETAILS_CONTENT" then
    match value with
    | .str text => some (.ofStrings ((trimmed? (.str text)).toList))
    | .arr items => some (.ofStrings (items.filterMap trimmed?))
    | _ => none
  else if wire = "FILTERS" then
    match value with
    | .obj fields => some (.obj (usable filter? fields))
    | _ => some (.obj [])
  else if wire = "ELEMENTS" then
    match value with
    | .obj fields => some (.obj (usable (fun v => (trimmed? v).map .str) fields))
    | _ => none
  else
    match value with
    | .str text => some (.str (Text.strip text))
    | other => some other

/-- The coerced fields; of two spellings of one key the later value counts. -/
def fields (raw : Fields) : Fields :=
  raw.foldl (fun done (key, raw) =>
    match BindingKey.wire? key with
    | none => done
    | some wire =>
        match value? wire raw with
        | some value => Entries.put wire value done
        | none => done) []

end Gleaner.Coerce
