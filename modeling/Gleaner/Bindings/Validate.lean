import Gleaner.Bindings.Coerce

/-!
# Validating bindings

What a record needs before it can be used, and what it had better have. A demand that is not
met is an error and keeps the record from use; a recommendation that is not followed is a
warning, since there is a default.
-/

set_option autoImplicit false

namespace Gleaner

structure BindingReport where
  errors : List String
  warnings : List String
  deriving DecidableEq, Repr

namespace BindingReport

def isValid (report : BindingReport) : Bool := report.errors.isEmpty

def isFilled : Option Json → Bool
  | some (.str s) => !Text.isBlankText s
  | _ => false

def isGiven (value : Option Json) : Bool := value.any Json.truthy

private def parts : Option Json → List Json
  | some (.arr items) => items
  | _ => []

def demands (fields : Fields) : List (Bool × String) :=
  let field (key : String) := Entries.find? key fields
  let scrollsBy (name : String) : Bool :=
    match field "SCROLL_BEHAVIOR" with
    | some (.str s) => s = name
    | _ => false
  [(isFilled (field "LIST"), "LIST selector is required"),
    (isFilled (field "LIST_ITEM"), "LIST_ITEM selector is required"),
    ((parts (field "DETAILS_CONTENT")).any fun item => isFilled (some item),
      "DETAILS_CONTENT selectors are required"),
    (isGiven (field "ITEM_ID"), "ITEM_ID extractor is required"),
    (isGiven (field "LIST_LOADED"), "LIST_LOADED condition is required"),
    (isGiven (field "DETAILS_LOADED"), "DETAILS_LOADED condition is required"),
    (!scrollsBy "load_more_button" || isFilled (field "LOAD_MORE_BUTTON"),
      "LOAD_MORE_BUTTON required when SCROLL_BEHAVIOR is load_more_button"),
    (!scrollsBy "paginated" || isFilled (field "NEXT_PAGE_BUTTON"),
      "NEXT_PAGE_BUTTON required when SCROLL_BEHAVIOR is paginated")]

def recommendations (fields : Fields) : List (Bool × String) :=
  let field (key : String) := Entries.find? key fields
  let navigates : Bool :=
    match field "CLICK_BEHAVIOR" with
    | some (.str s) => s = "navigates"
    | _ => false
  [(isGiven (field "SCROLL_BEHAVIOR"), "SCROLL_BEHAVIOR not set, assuming infinite scroll"),
    (!navigates || isGiven (field "RETURN_TO_LIST"),
      "RETURN_TO_LIST recommended when CLICK_BEHAVIOR is navigates"),
    (isGiven (field "NO_MORE_ITEMS"),
      "NO_MORE_ITEMS condition not set, end of list will be inferred"),
    (isGiven (field "PAGE_LOADED"), "PAGE_LOADED condition not set")]

private def unmet (points : List (Bool × String)) : List String :=
  (points.filter fun point => !point.1).map (·.2)

def ofFields (fields : Fields) : BindingReport :=
  ⟨unmet (demands fields), unmet (recommendations fields)⟩

end BindingReport

def PageBindings.report (b : PageBindings) : BindingReport :=
  .ofFields b.toFields

def reportOnRaw (raw : Fields) : BindingReport :=
  .ofFields (Coerce.fields raw)

end Gleaner
