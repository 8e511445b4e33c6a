import Gleaner.Bindings.Wire
import Gleaner.Proofs.Bindings.Condition
import Gleaner.Proofs.Schema.Reading

/-!
# Records field by field

A record is read one field at a time, and no field depends on another: `ReadsFrom` says what
each field reads as. What a record is written as reads as that record again.
-/

set_option autoImplicit false

namespace Gleaner

/-- A field reads as a predicate, if there is one. -/
abbrev Fields.ReadsCondition (fields : Fields) (name : FieldName)
    (condition : Option StateCondition) : Prop :=
  fields.Reads name none (Reading.orNull StateCondition.reading) condition

structure PageStates.ReadsFrom (fields : Fields) (states : PageStates) : Prop where
  pageLoaded : fields.ReadsCondition BindingKey.pageLoaded states.pageLoaded
  listLoaded : fields.ReadsCondition BindingKey.listLoaded states.listLoaded
  listUpdated : fields.ReadsCondition BindingKey.listUpdated states.listUpdated
  detailsLoaded : fields.ReadsCondition BindingKey.detailsLoaded states.detailsLoaded
  noMoreItems : fields.ReadsCondition BindingKey.noMoreItems states.noMoreItems
  listEmpty : fields.ReadsCondition BindingKey.listEmpty states.listEmpty
  loading : fields.ReadsCondition BindingKey.loading states.loading

open Reading in
structure ItemIdRule.ReadsFrom (fields : Fields) (rule : ItemIdRule) : Prop where
  source : fields.Reads ⟨"from", ["source"]⟩ .href (choice IdSource.names) rule.source
  selector : fields.Reads "selector" none (orNull string) rule.selector
  attrName : fields.Reads "attribute" none (orNull string) rule.attrName
  pattern : fields.Reads "pattern" none (orNull string) rule.pattern

open Reading in
structure FilterBinding.ReadsFrom (fields : Fields) (filter : FilterBinding) : Prop where
  selector : fields.Holds "selector" string filter.selector
  kind : fields.Reads "type" .dropdown (choice FilterKind.names) filter.kind
  optionsSelector : fields.Reads ⟨"optionsSelector", ["options_selector"]⟩ none (orNull string)
    filter.optionsSelector

theorem ItemIdRule.read_eq_ok {value : Json} {rule : ItemIdRule} :
    ItemIdRule.read value = .ok rule ↔ ∃ fields, value = .obj fields ∧ rule.ReadsFrom fields := by
  cases value with
  | obj fields =>
      simp only [ItemIdRule.read, Checked.seq_eq_ok, Checked.map_eq_ok]
      constructor
      · rintro ⟨_, _, ⟨_, _, ⟨_, _, ⟨_, source, rfl⟩, selector, rfl⟩, attrName, rfl⟩, pattern, rfl⟩
        exact ⟨fields, rfl, Fields.optional_eq_ok.mp source, Fields.optional_eq_ok.mp selector,
          Fields.optional_eq_ok.mp attrName, Fields.optional_eq_ok.mp pattern⟩
      · rintro ⟨_, same, source, selector, attrName, pattern⟩
        cases same
        exact ⟨_, _, ⟨_, _, ⟨_, _, ⟨_, Fields.optional_eq_ok.mpr source, rfl⟩,
          Fields.optional_eq_ok.mpr selector, rfl⟩, Fields.optional_eq_ok.mpr attrName, rfl⟩,
          Fields.optional_eq_ok.mpr pattern, rfl⟩
  | _ => exact ⟨nofun, fun ⟨_, impossible, _⟩ => nomatch impossible⟩

theorem FilterBinding.read_eq_ok {value : Json} {filter : FilterBinding} :
    FilterBinding.read value = .ok filter ↔
      ∃ fields, value = .obj fields ∧ filter.ReadsFrom fields := by
  cases value with
  | obj fields =>
      simp only [FilterBinding.read, Checked.seq_eq_ok, Checked.map_eq_ok]
      constructor
      · rintro ⟨_, _, ⟨_, _, ⟨_, selector, rfl⟩, kind, rfl⟩, optionsSelector, rfl⟩
        exact ⟨fields, rfl, Fields.required_eq_ok.mp selector, Fields.optional_eq_ok.mp kind,
          Fields.optional_eq_ok.mp optionsSelector⟩
      · rintro ⟨_, same, selector, kind, optionsSelector⟩
        cases same
        exact ⟨_, _, ⟨_, _, ⟨_, Fields.required_eq_ok.mpr selector, rfl⟩,
          Fields.optional_eq_ok.mpr kind, rfl⟩, Fields.optional_eq_ok.mpr optionsSelector, rfl⟩
  | _ => exact ⟨nofun, fun ⟨_, impossible, _⟩ => nomatch impossible⟩

open Reading in
/-- Every part of the record is what its field reads as. -/
structure PageBindings.ReadsFrom (now : Float) (fields : Fields) (b : PageBindings) : Prop where
  id : fields.Reads "id" "" string b.id
  urlPattern : fields.Reads ⟨"urlPattern", ["url_pattern"]⟩ "" string b.urlPattern
  version : fields.Reads "version" 1 int b.version
  updatedAt : fields.Reads ⟨"updatedAt", ["updated_at"]⟩ now float b.updatedAt
  searchBox : fields.Reads ⟨"SEARCH_BOX", ["search_box"]⟩ none (orNull string) b.searchBox
  searchSubmit :
    fields.Reads ⟨"SEARCH_SUBMIT", ["search_submit"]⟩ none (orNull string) b.searchSubmit
  list : fields.Reads ⟨"LIST", ["list_container"]⟩ "" string b.list
  listItem : fields.Reads ⟨"LIST_ITEM", ["list_item"]⟩ "" string b.listItem
  listItemActive :
    fields.Reads ⟨"LIST_ITEM_ACTIVE", ["list_item_active"]⟩ none (orNull string) b.listItemActive
  detailsPanel :
    fields.Reads ⟨"DETAILS_PANEL", ["details_panel"]⟩ none (orNull string) b.detailsPanel
  detailsContent :
    fields.Reads ⟨"DETAILS_CONTENT", ["details_content"]⟩ [] (Reading.list string) b.detailsContent
  filters : fields.Reads ⟨"FILTERS", ["filters"]⟩ [] (entries FilterBinding.read) b.filters
  elements : fields.Reads ⟨"ELEMENTS", ["elements"]⟩ [] (entries string) b.elements
  scrollContainer :
    fields.Reads ⟨"SCROLL_CONTAINER", ["scroll_container"]⟩ none (orNull string) b.scrollContainer
  loadMoreButton :
    fields.Reads ⟨"LOAD_MORE_BUTTON", ["load_more_button"]⟩ none (orNull string) b.loadMoreButton
  nextPageButton :
    fields.Reads ⟨"NEXT_PAGE_BUTTON", ["next_page_button"]⟩ none (orNull string) b.nextPageButton
  states : b.states.ReadsFrom fields
  itemId : fields.Reads ⟨"ITEM_ID", ["item_id"]⟩ none (orNull ItemIdRule.read) b.itemId
  scrollBehavior : fields.Reads ⟨"SCROLL_BEHAVIOR", ["scroll_behavior"]⟩ none
    (orNull (choice ScrollBehavior.names)) b.scrollBehavior
  clickBehavior : fields.Reads ⟨"CLICK_BEHAVIOR", ["click_behavior"]⟩ none
    (orNull (choice ClickBehavior.names)) b.clickBehavior
  returnToList : fields.Reads ⟨"RETURN_TO_LIST", ["return_to_list"]⟩ none
    (orNull (choice ReturnToList.names)) b.returnToList
  closeDetailsButton : fields.Reads ⟨"CLOSE_DETAILS_BUTTON", ["close_details_button"]⟩ none
    (orNull string) b.closeDetailsButton

namespace PageBindings

variable {now : Float} {fields : Fields} {b : PageBindings}

theorem readStates_eq_ok {states : PageStates} :
    readStates fields = .ok states ↔ states.ReadsFrom fields := by
  simp only [readStates, Checked.seq_eq_ok, Checked.map_eq_ok]
  constructor
  · rintro ⟨_, _, ⟨_, _, ⟨_, _, ⟨_, _, ⟨_, _, ⟨_, _, ⟨_, pageLoaded, rfl⟩, listLoaded, rfl⟩,
      listUpdated, rfl⟩, detailsLoaded, rfl⟩, noMoreItems, rfl⟩, listEmpty, rfl⟩, loading, rfl⟩
    exact ⟨Fields.optional_eq_ok.mp pageLoaded, Fields.optional_eq_ok.mp listLoaded,
      Fields.optional_eq_ok.mp listUpdated, Fields.optional_eq_ok.mp detailsLoaded,
      Fields.optional_eq_ok.mp noMoreItems, Fields.optional_eq_ok.mp listEmpty,
      Fields.optional_eq_ok.mp loading⟩
  · rintro ⟨pageLoaded, listLoaded, listUpdated, detailsLoaded, noMoreItems, listEmpty, loading⟩
    exact ⟨_, _, ⟨_, _, ⟨_, _, ⟨_, _, ⟨_, _, ⟨_, _, ⟨_, Fields.optional_eq_ok.mpr pageLoaded, rfl⟩,
      Fields.optional_eq_ok.mpr listLoaded, rfl⟩, Fields.optional_eq_ok.mpr listUpdated, rfl⟩,
      Fields.optional_eq_ok.mpr detailsLoaded, rfl⟩, Fields.optional_eq_ok.mpr noMoreItems, rfl⟩,
      Fields.optional_eq_ok.mpr listEmpty, rfl⟩, Fields.optional_eq_ok.mpr loading, rfl⟩

/-- A record is read from fields exactly when each of its parts is. -/
theorem ofFields_eq_ok : ofFields now fields = .ok b ↔ b.ReadsFrom now fields := by
  constructor
  · intro made
    simp only [ofFields, Checked.seq_eq_ok, Checked.map_eq_ok] at made
    obtain ⟨_, _, made, closeDetailsButton, rfl⟩ := made
    obtain ⟨_, _, made, returnToList, rfl⟩ := made
    obtain ⟨_, _, made, clickBehavior, rfl⟩ := made
    obtain ⟨_, _, made, scrollBehavior, rfl⟩ := made
    obtain ⟨_, _, made, itemId, rfl⟩ := made
    obtain ⟨_, _, made, states, rfl⟩ := made
    obtain ⟨_, _, made, nextPageButton, rfl⟩ := made
    obtain ⟨_, _, made, loadMoreButton, rfl⟩ := made
    obtain ⟨_, _, made, scrollContainer, rfl⟩ := made
    obtain ⟨_, _, made, elements, rfl⟩ := made
    obtain ⟨_, _, made, filters, rfl⟩ := made
    obtain ⟨_, _, made, detailsContent, rfl⟩ := made
    obtain ⟨_, _, made, detailsPanel, rfl⟩ := made
    obtain ⟨_, _, made, listItemActive, rfl⟩ := made
    obtain ⟨_, _, made, listItem, rfl⟩ := made
    obtain ⟨_, _, made, list, rfl⟩ := made
    obtain ⟨_, _, made, searchSubmit, rfl⟩ := made
    obtain ⟨_, _, made, searchBox, rfl⟩ := made
    obtain ⟨_, _, made, updatedAt, rfl⟩ := made
    obtain ⟨_, _, made, version, rfl⟩ := made
    obtain ⟨_, _, made, urlPattern, rfl⟩ := made
    obtain ⟨_, id, rfl⟩ := made
    exact ⟨Fields.optional_eq_ok.mp id, Fields.optional_eq_ok.mp urlPattern, Fields.optional_eq_ok.mp
      version, Fields.optional_eq_ok.mp updatedAt, Fields.optional_eq_ok.mp searchBox,
      Fields.optional_eq_ok.mp searchSubmit, Fields.optional_eq_ok.mp list,
      Fields.optional_eq_ok.mp listItem, Fields.optional_eq_ok.mp listItemActive,
      Fields.optional_eq_ok.mp detailsPanel, Fields.optional_eq_ok.mp detailsContent,
      Fields.optional_eq_ok.mp filters, Fields.optional_eq_ok.mp elements,
      Fields.optional_eq_ok.mp scrollContainer, Fields.optional_eq_ok.mp loadMoreButton,
      Fields.optional_eq_ok.mp nextPageButton, readStates_eq_ok.mp states,
      Fields.optional_eq_ok.mp itemId, Fields.optional_eq_ok.mp scrollBehavior,
      Fields.optional_eq_ok.mp clickBehavior, Fields.optional_eq_ok.mp returnToList,
      Fields.optional_eq_ok.mp closeDetailsButton⟩
  · intro reads
    simp only [ofFields, Checked.seq_eq_ok, Checked.map_eq_ok]
    exact ⟨_, _, ⟨_, _, ⟨_, _, ⟨_, _, ⟨_, _, ⟨_, _, ⟨_, _, ⟨_, _, ⟨_, _, ⟨_, _, ⟨_, _, ⟨_, _, ⟨_, _,
      ⟨_, _, ⟨_, _, ⟨_, _, ⟨_, _, ⟨_, _, ⟨_, _, ⟨_, _, ⟨_, _, ⟨_, Fields.optional_eq_ok.mpr
      reads.id, rfl⟩, Fields.optional_eq_ok.mpr reads.urlPattern, rfl⟩, Fields.optional_eq_ok.mpr
      reads.version, rfl⟩, Fields.optional_eq_ok.mpr reads.updatedAt, rfl⟩,
      Fields.optional_eq_ok.mpr reads.searchBox, rfl⟩, Fields.optional_eq_ok.mpr
      reads.searchSubmit, rfl⟩, Fields.optional_eq_ok.mpr reads.list, rfl⟩,
      Fields.optional_eq_ok.mpr reads.listItem, rfl⟩, Fields.optional_eq_ok.mpr
      reads.listItemActive, rfl⟩, Fields.optional_eq_ok.mpr reads.detailsPanel, rfl⟩,
      Fields.optional_eq_ok.mpr reads.detailsContent, rfl⟩, Fields.optional_eq_ok.mpr
      reads.filters, rfl⟩, Fields.optional_eq_ok.mpr reads.elements, rfl⟩,
      Fields.optional_eq_ok.mpr reads.scrollContainer, rfl⟩, Fields.optional_eq_ok.mpr
      reads.loadMoreButton, rfl⟩, Fields.optional_eq_ok.mpr reads.nextPageButton, rfl⟩,
      readStates_eq_ok.mpr reads.states, rfl⟩, Fields.optional_eq_ok.mpr reads.itemId, rfl⟩,
      Fields.optional_eq_ok.mpr reads.scrollBehavior, rfl⟩, Fields.optional_eq_ok.mpr
      reads.clickBehavior, rfl⟩, Fields.optional_eq_ok.mpr reads.returnToList, rfl⟩,
      Fields.optional_eq_ok.mpr reads.closeDetailsButton, rfl⟩

theorem ofFieldsOrFault_eq_ok : ofFieldsOrFault now fields = .ok b ↔ b.ReadsFrom now fields := by
  refine Iff.trans ?_ ofFields_eq_ok
  unfold ofFieldsOrFault
  rcases ofFields now fields with problems | record
  · exact ⟨nofun, nofun⟩
  · exact ⟨fun same => by cases same; rfl, fun same => by cases same; rfl⟩

/-!
## What is written is read
-/

/-- The keys that a record is written under. -/
def wires : List String := BindingKey.all.map (·.wire)

theorem keys_allFields (b : PageBindings) : b.allFields.map (·.1) =
    ["id", "urlPattern", "version", "updatedAt", "SEARCH_BOX", "SEARCH_SUBMIT", "LIST", "LIST_ITEM",
      "LIST_ITEM_ACTIVE", "DETAILS_PANEL", "DETAILS_CONTENT", "FILTERS", "ELEMENTS",
      "SCROLL_CONTAINER", "LOAD_MORE_BUTTON", "NEXT_PAGE_BUTTON", "PAGE_LOADED", "LIST_LOADED",
      "LIST_UPDATED", "DETAILS_LOADED", "NO_MORE_ITEMS", "LIST_EMPTY", "LOADING", "ITEM_ID",
      "SCROLL_BEHAVIOR", "CLICK_BEHAVIOR", "RETURN_TO_LIST", "CLOSE_DETAILS_BUTTON"] := rfl

/-- A key has the value it is written with, unless that is null. -/
theorem value?_eq_filter (key : String) (b : PageBindings) :
    b.value? key = (Entries.find? key b.allFields).filter fun value => !value.isNull := by
  have once : (b.allFields.map (·.1)).Nodup := by
    rw [keys_allFields]
    decide +kernel
  exact Entries.find?_filter (fun value => !value.isNull) key once

theorem value?_eq_none {key : String} (unknown : key ∉ wires) (b : PageBindings) :
    b.value? key = none := by
  have known : ∀ key ∈ b.allFields.map (·.1), key ∈ wires := by
    rw [keys_allFields]
    decide +kernel
  rw [value?_eq_filter, Entries.find?_eq_none (mt (known key) unknown)]
  rfl

section Written

variable (b : PageBindings)

theorem value?_details : b.value? "DETAILS_CONTENT" = some (.ofStrings b.detailsContent) := by
  rw [value?_eq_filter]
  rfl

theorem value?_filters :
    b.value? "FILTERS" = some (.obj (b.filters.mapValues FilterBinding.toJson)) := by
  rw [value?_eq_filter]
  rfl

theorem value?_elements : b.value? "ELEMENTS" = some (.obj (b.elements.mapValues .str)) := by
  rw [value?_eq_filter]
  rfl

theorem value?_itemId : b.value? "ITEM_ID" = b.itemId.map ItemIdRule.toJson := by
  rw [value?_eq_filter]
  show ((some ((b.itemId.map ItemIdRule.toJson).getD .null)).filter _) = _
  cases b.itemId <;> rfl

end Written

end PageBindings

theorem ItemIdRule.read_toJson (rule : ItemIdRule) : ItemIdRule.read rule.toJson = .ok rule := by
  obtain ⟨source, selector, attrName, pattern⟩ := rule
  cases source <;> cases selector <;> cases attrName <;> cases pattern <;> rfl

theorem FilterBinding.read_toJson (filter : FilterBinding) :
    FilterBinding.read filter.toJson = .ok filter := by
  obtain ⟨selector, kind, optionsSelector⟩ := filter
  cases kind <;> cases optionsSelector <;> rfl

/-- Every key is one that records are written under. -/
def Fields.Wired (fields : Fields) : Prop :=
  ∀ key, key ∉ PageBindings.wires → Entries.find? key fields = none

/-- In such fields a name is found under its first spelling only. -/
theorem Fields.Wired.value?_eq {fields : Fields} (wired : fields.Wired) {name : FieldName}
    (others : ∀ key ∈ name.others, key ∉ PageBindings.wires) :
    name.value? fields = Entries.find? name.wire fields := by
  have nothing : name.others.findSome? (fun key => Entries.find? key fields) = none :=
    List.findSome?_eq_none_iff.mpr fun key found => wired key (others key found)
  rw [FieldName.value?, FieldName.spellings, List.findSome?_cons, nothing]
  split
  next found => exact found.symm
  next missing => exact missing.symm

namespace PageBindings

section Written

variable {α : Type} {b : PageBindings} {name : FieldName} {value : Json} {default result : α}
  {read : Reading α}

theorem wired_toFields (b : PageBindings) : Fields.Wired b.toFields :=
  fun _ unknown => b.value?_eq_none unknown

theorem reads_given (others : ∀ key ∈ name.others, key ∉ wires)
    (found : Entries.find? name.wire b.allFields = some value) (given : value.isNull = false)
    (made : read value = .ok result) : Fields.Reads b.toFields name default read result := by
  have written : b.value? name.wire = some value := by
    rw [value?_eq_filter, found, Option.filter_some, given]
    rfl
  exact (Fields.Reads.given ((b.wired_toFields.value?_eq others).trans written)).mpr made

theorem reads_optional {encode : α → Json} {part : Option α}
    (others : ∀ key ∈ name.others, key ∉ wires)
    (found : Entries.find? name.wire b.allFields = some value)
    (written : value = (part.map encode).getD .null) (given : ∀ one, (encode one).isNull = false)
    (made : ∀ one, read (encode one) = .ok one) :
    Fields.Reads b.toFields name none (Reading.orNull read) part := by
  subst written
  cases part with
  | some one => exact reads_given others found (given one) (Reading.orNull_some (given one) (made one))
  | none =>
      have absent : b.value? name.wire = none := by
        rw [value?_eq_filter, found]
        rfl
      exact Fields.Reads.missing ((b.wired_toFields.value?_eq others).trans absent)

theorem reads_text {text : Option String} (others : ∀ key ∈ name.others, key ∉ wires)
    (found : Entries.find? name.wire b.allFields = some (.ofString? text)) :
    Fields.Reads b.toFields name none (Reading.orNull Reading.string) text :=
  reads_optional others found (by cases text <;> rfl) (fun _ => rfl) fun _ => rfl

theorem reads_condition {condition : Option StateCondition}
    (others : ∀ key ∈ name.others, key ∉ wires)
    (found : Entries.find? name.wire b.allFields = some value)
    (written : value = (condition.map StateCondition.toJson).getD .null) :
    Fields.ReadsCondition b.toFields name condition := by
  refine reads_optional others found written StateCondition.isNull_toJson fun condition => ?_
  rw [StateCondition.reading, StateCondition.read?_toJson]

end Written

/-- What a record is written as reads as that record again. -/
theorem readsFrom_toFields (now : Float) (b : PageBindings) : b.ReadsFrom now b.toFields where
  id := reads_given (by decide) rfl rfl rfl
  urlPattern := reads_given (by decide) rfl rfl rfl
  version := reads_given (by decide) rfl rfl rfl
  updatedAt := reads_given (by decide) rfl rfl rfl
  searchBox := reads_text (by decide) rfl
  searchSubmit := reads_text (by decide) rfl
  list := reads_given (by decide) rfl rfl rfl
  listItem := reads_given (by decide) rfl rfl rfl
  listItemActive := reads_text (by decide) rfl
  detailsPanel := reads_text (by decide) rfl
  detailsContent := reads_given (by decide) rfl rfl (Reading.strings_eq_ok.mpr rfl)
  filters := reads_given (by decide) rfl rfl
    (Reading.entries_eq_ok.mpr ⟨_, rfl, .mapValues FilterBinding.read_toJson _⟩)
  elements := reads_given (by decide) rfl rfl
    (Reading.entries_eq_ok.mpr ⟨_, rfl, .mapValues (fun _ => Reading.string_eq_ok.mpr rfl) _⟩)
  scrollContainer := reads_text (by decide) rfl
  loadMoreButton := reads_text (by decide) rfl
  nextPageButton := reads_text (by decide) rfl
  states :=
    { pageLoaded := reads_condition (by decide) rfl (by cases b.states.pageLoaded <;> rfl)
      listLoaded := reads_condition (by decide) rfl (by cases b.states.listLoaded <;> rfl)
      listUpdated := reads_condition (by decide) rfl (by cases b.states.listUpdated <;> rfl)
      detailsLoaded := reads_condition (by decide) rfl (by cases b.states.detailsLoaded <;> rfl)
      noMoreItems := reads_condition (by decide) rfl (by cases b.states.noMoreItems <;> rfl)
      listEmpty := reads_condition (by decide) rfl (by cases b.states.listEmpty <;> rfl)
      loading := reads_condition (by decide) rfl (by cases b.states.loading <;> rfl) }
  itemId := reads_optional (by decide) rfl rfl (fun _ => rfl) ItemIdRule.read_toJson
  scrollBehavior := reads_optional (by decide) rfl (by cases b.scrollBehavior <;> rfl)
    (fun _ => rfl) fun behavior => by cases behavior <;> rfl
  clickBehavior := reads_optional (by decide) rfl (by cases b.clickBehavior <;> rfl)
    (fun _ => rfl) fun behavior => by cases behavior <;> rfl
  returnToList := reads_optional (by decide) rfl (by cases b.returnToList <;> rfl)
    (fun _ => rfl) fun way => by cases way <;> rfl
  closeDetailsButton := reads_text (by decide) rfl

theorem ofFields_toFields (now : Float) (b : PageBindings) : ofFields now b.toFields = .ok b :=
  ofFields_eq_ok.mpr (b.readsFrom_toFields now)

end PageBindings

end Gleaner
