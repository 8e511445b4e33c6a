import Gleaner.Bindings.Coerce

/-!
# Patching bindings

A patch is a partial set of raw fields. What it does not name stays; filters and elements
merge name by name; details selectors become a union with the patch's first; the version
grows by one. Identity and pattern are not open to patches.
-/

set_option autoImplicit false

namespace Gleaner

/-- The distinct texts, in order of first appearance. -/
def distinct (texts : List String) : List String :=
  texts.foldl (fun seen text => if seen.contains text then seen else seen ++ [text]) []

namespace Patch

private def named (value : Option Json) : Fields :=
  match value with
  | some (.obj entries) => entries
  | _ => []

private def texts (value : Option Json) : List String :=
  match value with
  | some (.arr items) => items.filterMap Json.asString?
  | _ => []

def joined (key : String) (old : Option Json) (new : Json) : Json :=
  if key = "FILTERS" || key = "ELEMENTS" then
    .obj (Entries.overlay (named old) (named (some new)))
  else if key = "DETAILS_CONTENT" then
    .ofStrings (distinct (texts (some new) ++ texts old))
  else new

/-- The fields of a patch that may change a record. -/
def changes (patch : Fields) : Fields :=
  (Coerce.fields patch).filter fun entry => !BindingKey.isMeta entry.1

end Patch

def PageBindings.merge (now : Float) (b : PageBindings) (patch : Fields) :
    Except Fault PageBindings :=
  let merged := (Patch.changes patch).foldl
    (fun fields (key, value) =>
      Entries.put key (Patch.joined key (Entries.find? key fields) value) fields) b.toFields
  PageBindings.ofFieldsOrFault now
    (Entries.overlay merged [("version", .int (b.version + 1)), ("updatedAt", .float now)])

end Gleaner
