import Gleaner.Bindings.Basic
import Gleaner.Fault
import Gleaner.Json.Pairs
import Gleaner.Schema.Reading

/-!
# Bindings as JSON

The JSON form of a record: roles in capitals, in a fixed order, without what is not set.
Reading accepts the attribute spelling of each key too; the capital spelling wins when both
are there.
-/

set_option autoImplicit false

namespace Gleaner

def ItemIdRule.toJson (rule : ItemIdRule) : Json :=
  .compact
    [("from", .str rule.source.name), ("selector", .ofString? rule.selector),
      ("attribute", .ofString? rule.attrName), ("pattern", .ofString? rule.pattern)]

def ItemIdRule.read : Reading ItemIdRule
  | .obj fields =>
      ItemIdRule.mk
        <$> Fields.optional fields ⟨"from", ["source"]⟩ .href (Reading.choice IdSource.names)
        <*> Fields.optional fields "selector" none (Reading.orNull Reading.string)
        <*> Fields.optional fields "attribute" none (Reading.orNull Reading.string)
        <*> Fields.optional fields "pattern" none (Reading.orNull Reading.string)
  | _ => .complain (.notObjectOf "ItemIdExtractor")

def FilterBinding.toJson (filter : FilterBinding) : Json :=
  .compact
    [("selector", .str filter.selector), ("type", .str filter.kind.name),
      ("optionsSelector", .ofString? filter.optionsSelector)]

def FilterBinding.read : Reading FilterBinding
  | .obj fields =>
      FilterBinding.mk
        <$> Fields.required fields "selector" Reading.string
        <*> Fields.optional fields "type" .dropdown (Reading.choice FilterKind.names)
        <*> Fields.optional fields ⟨"optionsSelector", ["options_selector"]⟩ none
          (Reading.orNull Reading.string)
  | _ => .complain (.notObjectOf "FilterBinding")

namespace BindingKey

def pageLoaded : FieldName := ⟨"PAGE_LOADED", ["page_loaded"]⟩
def listLoaded : FieldName := ⟨"LIST_LOADED", ["list_loaded"]⟩
def listUpdated : FieldName := ⟨"LIST_UPDATED", ["list_updated"]⟩
def detailsLoaded : FieldName := ⟨"DETAILS_LOADED", ["details_loaded"]⟩
def noMoreItems : FieldName := ⟨"NO_MORE_ITEMS", ["no_more_items"]⟩
def listEmpty : FieldName := ⟨"LIST_EMPTY", ["list_empty"]⟩
def loading : FieldName := ⟨"LOADING", ["loading"]⟩

def conditions : List FieldName :=
  [pageLoaded, listLoaded, listUpdated, detailsLoaded, noMoreItems, listEmpty, loading]

def aboutRecord : List FieldName :=
  [⟨"id", []⟩, ⟨"urlPattern", ["url_pattern"]⟩, ⟨"version", []⟩, ⟨"updatedAt", ["updated_at"]⟩]

/-- The keys that say where things are, without the predicates. -/
def places : List FieldName :=
  [⟨"SEARCH_BOX", ["search_box"]⟩, ⟨"SEARCH_SUBMIT", ["search_submit"]⟩,
    ⟨"LIST", ["list_container"]⟩, ⟨"LIST_ITEM", ["list_item"]⟩,
    ⟨"LIST_ITEM_ACTIVE", ["list_item_active"]⟩, ⟨"DETAILS_PANEL", ["details_panel"]⟩,
    ⟨"DETAILS_CONTENT", ["details_content"]⟩, ⟨"FILTERS", ["filters"]⟩,
    ⟨"ELEMENTS", ["elements"]⟩, ⟨"SCROLL_CONTAINER", ["scroll_container"]⟩,
    ⟨"LOAD_MORE_BUTTON", ["load_more_button"]⟩, ⟨"NEXT_PAGE_BUTTON", ["next_page_button"]⟩,
    ⟨"ITEM_ID", ["item_id"]⟩, ⟨"SCROLL_BEHAVIOR", ["scroll_behavior"]⟩,
    ⟨"CLICK_BEHAVIOR", ["click_behavior"]⟩, ⟨"RETURN_TO_LIST", ["return_to_list"]⟩,
    ⟨"CLOSE_DETAILS_BUTTON", ["close_details_button"]⟩]

def all : List FieldName := aboutRecord ++ places ++ conditions

def wire? (spelling : String) : Option String :=
  (all.find? fun name => name.spellings.contains spelling).map FieldName.wire

def isCondition (wire : String) : Bool :=
  conditions.any (·.wire = wire)

def isMeta (wire : String) : Bool :=
  aboutRecord.any (·.wire = wire)

end BindingKey

private def named {α : Type} (name : α → String) (value : Option α) : Json :=
  match value with
  | some value => .str (name value)
  | none => .null

private def conditionJson (condition : Option StateCondition) : Json :=
  match condition with
  | some condition => condition.toJson
  | none => .null

namespace PageBindings

/-- Every field, null where nothing is set. -/
def allFields (b : PageBindings) : Fields :=
  [("id", .str b.id), ("urlPattern", .str b.urlPattern), ("version", .int b.version),
    ("updatedAt", .float b.updatedAt), ("SEARCH_BOX", .ofString? b.searchBox),
    ("SEARCH_SUBMIT", .ofString? b.searchSubmit), ("LIST", .str b.list),
    ("LIST_ITEM", .str b.listItem), ("LIST_ITEM_ACTIVE", .ofString? b.listItemActive),
    ("DETAILS_PANEL", .ofString? b.detailsPanel),
    ("DETAILS_CONTENT", .ofStrings b.detailsContent),
    ("FILTERS", .obj (b.filters.mapValues FilterBinding.toJson)),
    ("ELEMENTS", .obj (b.elements.mapValues .str)),
    ("SCROLL_CONTAINER", .ofString? b.scrollContainer),
    ("LOAD_MORE_BUTTON", .ofString? b.loadMoreButton),
    ("NEXT_PAGE_BUTTON", .ofString? b.nextPageButton),
    ("PAGE_LOADED", conditionJson b.states.pageLoaded),
    ("LIST_LOADED", conditionJson b.states.listLoaded),
    ("LIST_UPDATED", conditionJson b.states.listUpdated),
    ("DETAILS_LOADED", conditionJson b.states.detailsLoaded),
    ("NO_MORE_ITEMS", conditionJson b.states.noMoreItems),
    ("LIST_EMPTY", conditionJson b.states.listEmpty),
    ("LOADING", conditionJson b.states.loading),
    ("ITEM_ID", (b.itemId.map ItemIdRule.toJson).getD .null),
    ("SCROLL_BEHAVIOR", named ScrollBehavior.name b.scrollBehavior),
    ("CLICK_BEHAVIOR", named ClickBehavior.name b.clickBehavior),
    ("RETURN_TO_LIST", named ReturnToList.name b.returnToList),
    ("CLOSE_DETAILS_BUTTON", .ofString? b.closeDetailsButton)]

def toFields (b : PageBindings) : Fields :=
  b.allFields.filter fun entry => !entry.2.isNull

def toJson (b : PageBindings) : Json := .obj b.toFields

/-- The value of a key as it is written, if it is set. -/
def value? (key : String) (b : PageBindings) : Option Json :=
  Entries.find? key b.toFields

private def text? (fields : Fields) (name : FieldName) : Checked (Option String) :=
  Fields.optional fields name none (Reading.orNull Reading.string)

private def condition? (fields : Fields) (name : FieldName) : Checked (Option StateCondition) :=
  Fields.optional fields name none (Reading.orNull StateCondition.reading)

def readStates (fields : Fields) : Checked PageStates :=
  PageStates.mk
    <$> condition? fields BindingKey.pageLoaded
    <*> condition? fields BindingKey.listLoaded
    <*> condition? fields BindingKey.listUpdated
    <*> condition? fields BindingKey.detailsLoaded
    <*> condition? fields BindingKey.noMoreItems
    <*> condition? fields BindingKey.listEmpty
    <*> condition? fields BindingKey.loading

/-- Reads a record; `now` is its time when it names none. -/
def ofFields (now : Float) (fields : Fields) : Checked PageBindings :=
  PageBindings.mk
    <$> Fields.optional fields "id" "" Reading.string
    <*> Fields.optional fields ⟨"urlPattern", ["url_pattern"]⟩ "" Reading.string
    <*> Fields.optional fields "version" 1 Reading.int
    <*> Fields.optional fields ⟨"updatedAt", ["updated_at"]⟩ now Reading.float
    <*> text? fields ⟨"SEARCH_BOX", ["search_box"]⟩
    <*> text? fields ⟨"SEARCH_SUBMIT", ["search_submit"]⟩
    <*> Fields.optional fields ⟨"LIST", ["list_container"]⟩ "" Reading.string
    <*> Fields.optional fields ⟨"LIST_ITEM", ["list_item"]⟩ "" Reading.string
    <*> text? fields ⟨"LIST_ITEM_ACTIVE", ["list_item_active"]⟩
    <*> text? fields ⟨"DETAILS_PANEL", ["details_panel"]⟩
    <*> Fields.optional fields ⟨"DETAILS_CONTENT", ["details_content"]⟩ []
      (Reading.list Reading.string)
    <*> Fields.optional fields ⟨"FILTERS", ["filters"]⟩ [] (Reading.entries FilterBinding.read)
    <*> Fields.optional fields ⟨"ELEMENTS", ["elements"]⟩ [] (Reading.entries Reading.string)
    <*> text? fields ⟨"SCROLL_CONTAINER", ["scroll_container"]⟩
    <*> text? fields ⟨"LOAD_MORE_BUTTON", ["load_more_button"]⟩
    <*> text? fields ⟨"NEXT_PAGE_BUTTON", ["next_page_button"]⟩
    <*> readStates fields
    <*> Fields.optional fields ⟨"ITEM_ID", ["item_id"]⟩ none (Reading.orNull ItemIdRule.read)
    <*> Fields.optional fields ⟨"SCROLL_BEHAVIOR", ["scroll_behavior"]⟩ none
      (Reading.orNull (Reading.choice ScrollBehavior.names))
    <*> Fields.optional fields ⟨"CLICK_BEHAVIOR", ["click_behavior"]⟩ none
      (Reading.orNull (Reading.choice ClickBehavior.names))
    <*> Fields.optional fields ⟨"RETURN_TO_LIST", ["return_to_list"]⟩ none
      (Reading.orNull (Reading.choice ReturnToList.names))
    <*> text? fields ⟨"CLOSE_DETAILS_BUTTON", ["close_details_button"]⟩

def ofFieldsOrFault (now : Float) (fields : Fields) : Except Fault PageBindings :=
  (ofFields now fields).toExcept.mapError (.malformed "PageBindings")

end PageBindings

def PageBindings.ofJson (now : Float) (value : Json) : Except Fault PageBindings := do
  PageBindings.ofFieldsOrFault now (← value.toFields)

end Gleaner
