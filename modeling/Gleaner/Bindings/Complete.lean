import Gleaner.Bindings.Coerce
import Gleaner.Url.Host

/-!
# Completing bindings

From raw fields to a full record: coercion, then a default for every field that was left
empty, then identity and time. The defaults form one table; each looks at the fields gathered
before it.
-/

set_option autoImplicit false

namespace Gleaner

namespace Complete

/-- A field, if it holds something. -/
def given? (key : String) (fields : Fields) : Option Json :=
  (Entries.find? key fields).filter Json.truthy

private def presence (selector : Json) : Json := .obj [("exists", selector)]

/-- Which fields have a default, in order, and how it follows from the others. -/
def defaults : List (String × (Fields → Option Json)) :=
  [("CLICK_BEHAVIOR", fun b =>
      some (.str (if (given? "DETAILS_PANEL" b).isSome then "shows_panel" else "inline"))),
    ("SCROLL_BEHAVIOR", fun b =>
      some (.str
        (if (given? "NEXT_PAGE_BUTTON" b).isSome then "paginated"
        else if (given? "LOAD_MORE_BUTTON" b).isSome then "load_more_button"
        else "infinite"))),
    ("DETAILS_CONTENT", fun b => (given? "DETAILS_PANEL" b).map fun panel => .arr [panel]),
    ("PAGE_LOADED", fun _ => some (presence (.str "body"))),
    ("LIST_LOADED", fun b => (given? "LIST_ITEM" b).map presence),
    ("LIST_UPDATED", fun b =>
      (given? "LIST_ITEM" b).map fun item => .obj [("countChanged", item)]),
    ("DETAILS_LOADED", fun b => some (presence ((given? "DETAILS_PANEL" b).getD (.str "body")))),
    ("NO_MORE_ITEMS", fun _ => some (presence (.str ".no-results"))),
    ("ITEM_ID", fun _ =>
      some (.obj [("from", .str "href"), ("selector", .str "a[href]"),
        ("pattern", .str "/(\\d+)")]))]

def fill (fields : Fields) : Fields :=
  defaults.foldl (fun fields (key, default) =>
    if (given? key fields).isSome then fields
    else
      match default fields with
      | some value => Entries.put key value fields
      | none => fields) fields

end Complete


/-- An id made from the time, for things that come without one. -/
def timedId (kind : String) (now : Float) : String :=
  kind ++ "_" ++ toString ((Decimal.truncate? (now * 1000)).getD 0)

def PageBindings.complete (now : Float) (raw : Fields) (url : String) :
    Except Fault PageBindings := do
  let fields := Complete.fill (Coerce.fields raw)
  let pattern ←
    match Complete.given? "urlPattern" fields with
    | some pattern => pure pattern
    | none => Json.str <$> (Url.host url).mapError Fault.badUrl
  let id := (Complete.given? "id" fields).getD (.str (timedId "bindings" now))
  PageBindings.ofFieldsOrFault now
    (Entries.overlay fields
      [("urlPattern", pattern), ("id", id), ("version", .int 1), ("updatedAt", .float now)])

end Gleaner
