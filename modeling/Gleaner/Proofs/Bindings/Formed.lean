import Gleaner.Proofs.Bindings.Demands
import Gleaner.Proofs.Bindings.Merging
import Gleaner.Proofs.Schema.Kinds

/-!
# Fit for use and well formed

A report says whether a record has what a run needs. It looks at a few fields, and only at whether
they are there and say something, so what passes it may still be no record: a field that no demand
names may hold a value of another kind. Of what passes, the records are those whose remaining
fields are each of the kind that it is read as.
-/

set_option autoImplicit false

namespace Gleaner

namespace Kind

def condition : Kind := fun value => (StateCondition.read? value).isSome

def itemIdRule : Kind
  | .obj fields =>
      Fields.allows fields ⟨"from", ["source"]⟩ (choice IdSource.names) &&
        Fields.allows fields "selector" text.orNull &&
        Fields.allows fields "attribute" text.orNull && Fields.allows fields "pattern" text.orNull
  | _ => false

def filter : Kind
  | .obj fields =>
      Fields.gives fields "selector" text &&
        Fields.allows fields "type" (choice FilterKind.names) &&
        Fields.allows fields ⟨"optionsSelector", ["options_selector"]⟩ text.orNull
  | _ => false

end Kind

open Reading

theorem StateCondition.admits_reading : StateCondition.reading.Admits Kind.condition := by
  intro value
  unfold StateCondition.reading Kind.condition
  cases StateCondition.read? value with
  | some condition => exact iff_of_true ⟨condition, rfl⟩ rfl
  | none =>
      refine iff_of_false ?_ Bool.false_ne_true
      rintro ⟨condition, made⟩
      cases made

theorem ItemIdRule.admits_read : ItemIdRule.read.Admits Kind.itemIdRule := by
  intro value
  cases value with
  | obj fields =>
      simp only [Kind.itemIdRule, Bool.and_eq_true,
        ← Fields.allows_iff (admits_choice IdSource.names) .href,
        ← Fields.allows_iff admits_string.orNull none]
      constructor
      · rintro ⟨rule, made⟩
        obtain ⟨_, same, reads⟩ := ItemIdRule.read_eq_ok.mp made
        cases same
        exact ⟨⟨⟨⟨_, reads.source⟩, _, reads.selector⟩, _, reads.attrName⟩, _, reads.pattern⟩
      · rintro ⟨⟨⟨⟨_, source⟩, _, selector⟩, _, attrName⟩, _, pattern⟩
        exact ⟨⟨_, _, _, _⟩, ItemIdRule.read_eq_ok.mpr
          ⟨fields, rfl, source, selector, attrName, pattern⟩⟩
  | _ =>
      refine iff_of_false ?_ Bool.false_ne_true
      rintro ⟨rule, made⟩
      cases made

theorem FilterBinding.admits_read : FilterBinding.read.Admits Kind.filter := by
  intro value
  cases value with
  | obj fields =>
      simp only [Kind.filter, Bool.and_eq_true, ← Fields.gives_iff admits_string,
        ← Fields.allows_iff (admits_choice FilterKind.names) .dropdown,
        ← Fields.allows_iff admits_string.orNull none]
      constructor
      · rintro ⟨filter, made⟩
        obtain ⟨_, same, reads⟩ := FilterBinding.read_eq_ok.mp made
        cases same
        exact ⟨⟨⟨_, reads.selector⟩, _, reads.kind⟩, _, reads.optionsSelector⟩
      · rintro ⟨⟨⟨_, selector⟩, _, kind⟩, _, optionsSelector⟩
        exact ⟨⟨_, _, _⟩, FilterBinding.read_eq_ok.mpr
          ⟨fields, rfl, selector, kind, optionsSelector⟩⟩
  | _ =>
      refine iff_of_false ?_ Bool.false_ne_true
      rintro ⟨filter, made⟩
      cases made

namespace PageBindings

/-!
## Which fields make a record
-/

/-- The fields that a coerced record with a good report cannot have of another kind. -/
def seen : List (FieldName × Kind) :=
  [(⟨"LIST", ["list_container"]⟩, .text), (⟨"LIST_ITEM", ["list_item"]⟩, .text),
    (⟨"DETAILS_CONTENT", ["details_content"]⟩, .list .text),
    (⟨"ELEMENTS", ["elements"]⟩, .entries .text)] ++
  BindingKey.conditions.map fun name => (name, .orNull .condition)

/-- The fields whose kind nothing looks at before the record is read. -/
def unseen : List (FieldName × Kind) :=
  [("id", .text), (⟨"urlPattern", ["url_pattern"]⟩, .text), ("version", .number int),
    (⟨"updatedAt", ["updated_at"]⟩, .number float),
    (⟨"SEARCH_BOX", ["search_box"]⟩, .orNull .text),
    (⟨"SEARCH_SUBMIT", ["search_submit"]⟩, .orNull .text),
    (⟨"LIST_ITEM_ACTIVE", ["list_item_active"]⟩, .orNull .text),
    (⟨"DETAILS_PANEL", ["details_panel"]⟩, .orNull .text),
    (⟨"FILTERS", ["filters"]⟩, .entries .filter),
    (⟨"SCROLL_CONTAINER", ["scroll_container"]⟩, .orNull .text),
    (⟨"LOAD_MORE_BUTTON", ["load_more_button"]⟩, .orNull .text),
    (⟨"NEXT_PAGE_BUTTON", ["next_page_button"]⟩, .orNull .text),
    (⟨"ITEM_ID", ["item_id"]⟩, .orNull .itemIdRule),
    (⟨"SCROLL_BEHAVIOR", ["scroll_behavior"]⟩, .orNull (.choice ScrollBehavior.names)),
    (⟨"CLICK_BEHAVIOR", ["click_behavior"]⟩, .orNull (.choice ClickBehavior.names)),
    (⟨"RETURN_TO_LIST", ["return_to_list"]⟩, .orNull (.choice ReturnToList.names)),
    (⟨"CLOSE_DETAILS_BUTTON", ["close_details_button"]⟩, .orNull .text)]

/-- Each field that is there is of the kind that a table names for it. -/
def Formed (table : List (FieldName × Kind)) (fields : Fields) : Bool :=
  table.all fun row => fields.allows row.1 row.2

variable {now : Float} {raw fields : Fields}

/-- Fields are read as a record exactly when each of them is of its kind. -/
theorem exists_readsFrom :
    (∃ b : PageBindings, b.ReadsFrom now fields) ↔
      Formed seen fields = true ∧ Formed unseen fields = true := by
  simp only [Formed, seen, unseen, BindingKey.conditions, List.map_cons, List.map_nil,
    List.cons_append, List.nil_append, List.all_cons, List.all_nil, Bool.and_true, Bool.and_eq_true,
    ← Fields.allows_iff admits_string "", ← Fields.allows_iff admits_string.list [],
    ← Fields.allows_iff admits_string.entries [],
    ← Fields.allows_iff StateCondition.admits_reading.orNull none,
    ← Fields.allows_iff (admits_number int) 1, ← Fields.allows_iff (admits_number float) now,
    ← Fields.allows_iff admits_string.orNull none,
    ← Fields.allows_iff FilterBinding.admits_read.entries [],
    ← Fields.allows_iff ItemIdRule.admits_read.orNull none,
    ← Fields.allows_iff (admits_choice ScrollBehavior.names).orNull none,
    ← Fields.allows_iff (admits_choice ClickBehavior.names).orNull none,
    ← Fields.allows_iff (admits_choice ReturnToList.names).orNull none]
  constructor
  · rintro ⟨b, reads⟩
    exact ⟨⟨⟨_, reads.list⟩, ⟨_, reads.listItem⟩, ⟨_, reads.detailsContent⟩, ⟨_, reads.elements⟩,
      ⟨_, reads.states.pageLoaded⟩, ⟨_, reads.states.listLoaded⟩, ⟨_, reads.states.listUpdated⟩,
      ⟨_, reads.states.detailsLoaded⟩, ⟨_, reads.states.noMoreItems⟩, ⟨_, reads.states.listEmpty⟩,
      ⟨_, reads.states.loading⟩⟩, ⟨_, reads.id⟩, ⟨_, reads.urlPattern⟩, ⟨_, reads.version⟩,
      ⟨_, reads.updatedAt⟩, ⟨_, reads.searchBox⟩, ⟨_, reads.searchSubmit⟩,
      ⟨_, reads.listItemActive⟩, ⟨_, reads.detailsPanel⟩, ⟨_, reads.filters⟩,
      ⟨_, reads.scrollContainer⟩, ⟨_, reads.loadMoreButton⟩, ⟨_, reads.nextPageButton⟩,
      ⟨_, reads.itemId⟩, ⟨_, reads.scrollBehavior⟩, ⟨_, reads.clickBehavior⟩,
      ⟨_, reads.returnToList⟩, ⟨_, reads.closeDetailsButton⟩⟩
  · rintro ⟨⟨⟨_, list⟩, ⟨_, listItem⟩, ⟨_, detailsContent⟩, ⟨_, elements⟩, ⟨_, pageLoaded⟩,
      ⟨_, listLoaded⟩, ⟨_, listUpdated⟩, ⟨_, detailsLoaded⟩, ⟨_, noMoreItems⟩, ⟨_, listEmpty⟩,
      ⟨_, loading⟩⟩, ⟨_, id⟩, ⟨_, urlPattern⟩, ⟨_, version⟩, ⟨_, updatedAt⟩, ⟨_, searchBox⟩,
      ⟨_, searchSubmit⟩, ⟨_, listItemActive⟩, ⟨_, detailsPanel⟩, ⟨_, filters⟩,
      ⟨_, scrollContainer⟩, ⟨_, loadMoreButton⟩, ⟨_, nextPageButton⟩, ⟨_, itemId⟩,
      ⟨_, scrollBehavior⟩, ⟨_, clickBehavior⟩, ⟨_, returnToList⟩, ⟨_, closeDetailsButton⟩⟩
    obtain ⟨states, readsStates⟩ : ∃ states : PageStates, states.ReadsFrom fields :=
      ⟨⟨_, _, _, _, _, _, _⟩, pageLoaded, listLoaded, listUpdated, detailsLoaded, noMoreItems,
        listEmpty, loading⟩
    exact ⟨⟨_, _, _, _, _, _, _, _, _, _, _, _, _, _, _, _, states, _, _, _, _, _⟩, id, urlPattern,
      version, updatedAt, searchBox, searchSubmit, list, listItem, listItemActive, detailsPanel,
      detailsContent, filters, elements, scrollContainer, loadMoreButton, nextPageButton, readsStates,
      itemId, scrollBehavior, clickBehavior, returnToList, closeDetailsButton⟩

/-!
## What a good report sees to
-/

theorem formed_seen (valid : (reportOnRaw raw).isValid = true) :
    Formed seen (Coerce.fields raw) = true := by
  have wired := Coerce.wired_fields raw
  have coerced {name : FieldName} {kind : Kind} (others : ∀ key ∈ name.others, key ∉ wires)
      (fits : ∀ value, Entries.find? name.wire (Coerce.fields raw) = some value →
        kind value = true) : (Coerce.fields raw).allows name kind = true := by
    rw [Fields.allows, wired.value?_eq others]
    cases found : Entries.find? name.wire (Coerce.fields raw) with
    | none => rfl
    | some value => exact fits value found
  have filled {name : FieldName} {text : String} (others : ∀ key ∈ name.others, key ∉ wires)
      (demanded : (BindingReport.isFilled (Entries.find? name.wire (Coerce.fields raw)), text) ∈
        BindingReport.demands (Coerce.fields raw)) :
      (Coerce.fields raw).allows name .text = true := by
    refine coerced others fun value found => ?_
    have said := BindingReport.isValid_ofFields.mp valid _ demanded
    rw [found] at said
    cases value <;> first | rfl | cases said
  have condition {name : FieldName} (others : ∀ key ∈ name.others, key ∉ wires)
      (isCondition : BindingKey.isCondition name.wire = true) :
      (Coerce.fields raw).allows name (.orNull .condition) = true := by
    refine coerced others fun value found => ?_
    have settled := Coerce.settled_of_find? found
    rw [Coerce.value?_condition isCondition (Coerce.given_of_value? settled)] at settled
    obtain ⟨written, -, rfl⟩ := Option.map_eq_some_iff.mp settled
    refine (StateCondition.admits_reading.orNull _).mp ⟨some written, ?_⟩
    exact Reading.orNull_some written.isNull_toJson (by
      rw [StateCondition.reading, written.read?_toJson])
  have details : (Coerce.fields raw).allows ⟨"DETAILS_CONTENT", ["details_content"]⟩
      (.list .text) = true := by
    refine coerced (by decide) fun value found => ?_
    obtain ⟨field, -, -, made⟩ := Coerce.find?_fields found
    obtain ⟨selectors, rfl⟩ := Coerce.details_texts made
    exact (admits_string.list _).mp ⟨selectors, strings_eq_ok.mpr rfl⟩
  have elements : (Coerce.fields raw).allows ⟨"ELEMENTS", ["elements"]⟩ (.entries .text) = true := by
    refine coerced (by decide) fun value found => ?_
    obtain ⟨field, -, -, made⟩ := Coerce.find?_fields found
    obtain ⟨entries, rfl⟩ := Coerce.elements_named made
    refine List.all_eq_true.mpr fun entry among => ?_
    obtain ⟨text, -, same⟩ :=
      Option.map_eq_some_iff.mp (Coerce.coerced_elements found entry among)
    rw [← same]
    rfl
  simp only [Formed, seen, BindingKey.conditions, List.map_cons, List.map_nil, List.cons_append,
    List.nil_append, List.all_cons, List.all_nil, Bool.and_true, Bool.and_eq_true]
  exact ⟨filled (by decide) (.head _), filled (by decide) (.tail _ (.head _)), details, elements,
    condition (by decide) rfl, condition (by decide) rfl, condition (by decide) rfl,
    condition (by decide) rfl, condition (by decide) rfl, condition (by decide) rfl,
    condition (by decide) rfl⟩

/-- What passes a report is a record exactly when the fields that the report does not look into are
each of their kind. -/
theorem report_valid_reads (now : Float) (valid : (reportOnRaw raw).isValid = true) :
    (∃ b, ofFieldsOrFault now (Coerce.fields raw) = .ok b) ↔
      Formed unseen (Coerce.fields raw) = true := by
  simp only [ofFieldsOrFault_eq_ok, exists_readsFrom, formed_seen valid, true_and]

end PageBindings

/-- What every demand asks for, and nothing else. -/
def Examples.readyFields : Fields :=
  [("LIST", .str "ul"), ("LIST_ITEM", .str "li"), ("DETAILS_CONTENT", .ofStrings [".details"]),
    ("ITEM_ID", .obj [("from", .str "href")]), ("LIST_LOADED", .obj [("exists", .str "li")]),
    ("DETAILS_LOADED", .obj [("exists", .str ".details")])]

/-- Fields of other kinds than they are read as. -/
def Examples.oddFields : Fields :=
  [("id", .int 5), ("urlPattern", .arr []), ("version", .str "new"), ("updatedAt", .str "today"),
    ("SEARCH_BOX", .bool true), ("DETAILS_PANEL", .obj []), ("ITEM_ID", .obj [("from", .str "link")]),
    ("FILTERS", .obj [("date", .obj [("selector", .str ".date"), ("type", .str "menu")])]),
    ("SCROLL_BEHAVIOR", .str "spiral"), ("CLICK_BEHAVIOR", .str "hover"),
    ("RETURN_TO_LIST", .str "stay")]

open Examples

theorem PageBindings.report_valid_reads_ready :
    (∃ b, ofFieldsOrFault 0 (Coerce.fields readyFields) = .ok b) ∧
      ¬ ∃ b, ofFieldsOrFault 0
        (Coerce.fields (Entries.put "CLICK_BEHAVIOR" (.str "hover") readyFields)) = .ok b := by
  have hover : (reportOnRaw (Entries.put "CLICK_BEHAVIOR" (.str "hover") readyFields)).isValid =
      true := by decide +kernel
  refine ⟨(report_valid_reads 0 (by decide +kernel)).mpr (by decide +kernel), fun reads => ?_⟩
  exact absurd ((report_valid_reads 0 hover).mp reads) (by decide +kernel)

/-- With any one of the odd fields the report is as good, and there is no record. -/
theorem PageBindings.odd_malformed {field : String × Json} (among : field ∈ oddFields) :
    (reportOnRaw (Entries.put field.1 field.2 readyFields)).isValid = true ∧
      ¬ ∃ b, ofFieldsOrFault 0 (Coerce.fields (Entries.put field.1 field.2 readyFields)) = .ok b := by
  have checked : ∀ field ∈ oddFields,
      (reportOnRaw (Entries.put field.1 field.2 readyFields)).isValid = true ∧
        (ofFieldsOrFault 0 (Coerce.fields (Entries.put field.1 field.2 readyFields))).toOption.isSome =
          false := by decide +kernel
  obtain ⟨valid, none⟩ := checked field among
  refine ⟨valid, fun ⟨b, made⟩ => ?_⟩
  rw [made] at none
  cases none

theorem PageBindings.report_valid_malformed :
    (reportOnRaw (Entries.put "SEARCH_BOX" (.bool true) readyFields)).isValid = true ∧
      ¬ ∃ b, ofFieldsOrFault 0 (Coerce.fields (Entries.put "SEARCH_BOX" (.bool true) readyFields)) =
        .ok b := by
  have among : ("SEARCH_BOX", Json.bool true) ∈ oddFields := by simp [oddFields]
  exact odd_malformed among

end Gleaner
