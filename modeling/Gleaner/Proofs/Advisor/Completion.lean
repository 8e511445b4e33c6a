import Gleaner.Proofs.Advisor.Grounded
import Gleaner.Proofs.Bindings.Merging
import Gleaner.Proofs.Bindings.Trimmed

/-!
# Completed records are complete

A record that is completed has every part that has a default, whatever the raw fields left out or
gave in a form that cannot be used; and what they gave it keeps. A second completion, of what the
record is written as, finds nothing to coerce and nothing to fill. Zero and false count as nothing
here, as the empty text does.
-/

set_option autoImplicit false

namespace Gleaner

theorem strip_timedId {kind : String} (solid : kind.toList.any Text.isBlank = false) (now : Float) :
    Text.strip (timedId kind now) = timedId kind now := by
  refine Text.strip_of_solid fun c among => ?_
  rw [timedId, String.toList_append, String.toList_append, List.mem_append, List.mem_append] at among
  rcases among with (among | line) | among
  · exact Bool.eq_false_iff.mpr (List.any_eq_false.mp solid c among)
  · rw [List.mem_singleton.mp line]
    rfl
  · exact Text.isBlank_of_mem_toString c among

/-- A filter that is usable as it stands selects something. -/
theorem Coerce.selects_of_usable {value : Json} {filter : FilterBinding}
    (usable : filter? value = some value) (read : FilterBinding.read value = .ok filter) :
    filter.selector ≠ "" := by
  obtain ⟨fields, rfl, reads⟩ := FilterBinding.read_eq_ok.mp read
  obtain ⟨selector, found, same⟩ := reads.selector
  obtain rfl := Reading.string_eq_ok.mp same
  rw [FieldName.value?, FieldName.spellings, List.findSome?_cons] at found
  rw [filter?] at usable
  intro empty
  rw [empty] at found
  split at usable
  next selects =>
    cases there : Entries.find? "selector" fields with
    | none =>
        rw [there] at selects
        cases selects
    | some given =>
        rw [there] at found selects
        cases found
        cases selects
  next => cases usable

namespace PageBindings

section Completed

variable {now : Float} {raw : Fields} {pattern id : Json} {name : FieldName}

/-- What a field with entries is read from, if it holds any. -/
theorem completed_entries {α : Type} {read : Reading α} {parts : Entries α}
    (found : name.value? (completed pattern id now raw) =
      Entries.find? name.wire (Coerce.fields raw))
    (reads : Fields.Reads (completed pattern id now raw) name [] (Reading.entries read) parts) :
    parts = [] ∨ ∃ entries, Entries.find? name.wire (Coerce.fields raw) = some (.obj entries) ∧
      Entries.Alike (fun given made => read given = .ok made) entries parts := by
  cases given : Entries.find? name.wire (Coerce.fields raw) with
  | none =>
      rw [Fields.Reads, found, given] at reads
      exact .inl (Except.ok.inj reads).symm
  | some value =>
      obtain ⟨entries, rfl, alike⟩ :=
        Reading.entries_eq_ok.mp ((Fields.Reads.given (found.trans given)).mp reads)
      exact .inr ⟨entries, rfl, alike⟩

theorem completed_strip {text : String} (plain : Coerce.IsPlain name.wire)
    (found : name.value? (completed pattern id now raw) =
      Entries.find? name.wire (Coerce.fields raw))
    (reads : Fields.Reads (completed pattern id now raw) name "" Reading.string text) :
    Text.strip text = text := by
  rcases completed_text found reads with given | rfl
  · exact Coerce.coerced_strip plain given
  · rfl

theorem completed_strip? {part : Option String} (plain : Coerce.IsPlain name.wire)
    (found : name.value? (completed pattern id now raw) =
      Entries.find? name.wire (Coerce.fields raw))
    (reads : Fields.Reads (completed pattern id now raw) name none (Reading.orNull Reading.string)
      part) :
    part.map Text.strip = part := by
  have given := completed_text? found reads
  cases part with
  | none => rfl
  | some text => exact congrArg some (Coerce.coerced_strip plain given)

end Completed

variable {now : Float} {raw : Fields} {url : String} {b : PageBindings}

theorem complete_filters (made : complete now raw url = .ok b) :
    ∀ entry ∈ b.filters, entry.2.selector ≠ "" := by
  obtain ⟨pattern, -, reads⟩ := complete_reads made
  intro entry among
  rcases completed_entries (value?_completed (by decide) (by decide) (by decide)) reads.filters with
    none | ⟨entries, found, alike⟩
  · rw [none] at among
    cases among
  · obtain ⟨given, listed, read⟩ := alike.exists_left among
    exact Coerce.selects_of_usable (Coerce.coerced_filters found given listed) read

theorem complete_elements (made : complete now raw url = .ok b) :
    ∀ entry ∈ b.elements, Text.isBlankText entry.2 = false ∧ Text.strip entry.2 = entry.2 := by
  obtain ⟨pattern, -, reads⟩ := complete_reads made
  intro entry among
  rcases completed_entries (value?_completed (by decide) (by decide) (by decide)) reads.elements with
    none | ⟨entries, found, alike⟩
  · rw [none] at among
    cases among
  · obtain ⟨given, listed, read⟩ := alike.exists_left among
    have usable := Coerce.coerced_elements found given listed
    rw [Reading.string_eq_ok.mp read] at usable
    obtain ⟨_, trimmed, same⟩ := Option.map_eq_some_iff.mp usable
    cases same
    exact Coerce.solid_of_trimmed? trimmed

/-- A completed record is trimmed throughout, if the host that may stand for its pattern is. -/
theorem complete_trimmed (bare : ∀ host, Url.host url = .ok host → Text.strip host = host)
    (made : complete now raw url = .ok b) : b.trimmed = b := by
  obtain ⟨pattern, -, reads⟩ := complete_reads made
  have id : Text.strip b.id = b.id := by
    rcases complete_id made with given | ⟨-, same⟩
    · exact Coerce.coerced_strip ⟨rfl, by decide⟩ (Complete.given?_eq_some given).1
    · rw [same]
      exact strip_timedId rfl now
  have urlPattern : Text.strip b.urlPattern = b.urlPattern := by
    rcases complete_urlPattern made with given | ⟨-, host⟩
    · exact Coerce.coerced_strip ⟨rfl, by decide⟩ (Complete.given?_eq_some given).1
    · exact bare _ host
  have strip {name : FieldName} {text : String}
      (reads : Fields.Reads (completed pattern (idOf now raw) now raw) name "" Reading.string text)
      (plain : Coerce.IsPlain name.wire) (others : ∀ key ∈ name.others, key ∉ wires)
      (other : name.wire ∉ ["urlPattern", "id", "version", "updatedAt"])
      (undefaulted : name.wire ∉ Complete.defaults.map (·.1)) : Text.strip text = text :=
    completed_strip plain (value?_completed others other undefaulted) reads
  have strip? {name : FieldName} {part : Option String}
      (reads : Fields.Reads (completed pattern (idOf now raw) now raw) name none
        (Reading.orNull Reading.string) part)
      (plain : Coerce.IsPlain name.wire) (others : ∀ key ∈ name.others, key ∉ wires)
      (other : name.wire ∉ ["urlPattern", "id", "version", "updatedAt"])
      (undefaulted : name.wire ∉ Complete.defaults.map (·.1)) : part.map Text.strip = part :=
    completed_strip? plain (value?_completed others other undefaulted) reads
  have details : (b.detailsContent.filter fun text => !Text.isBlankText text).map Text.strip =
      b.detailsContent := by
    have each := complete_selectors made
    rw [List.filter_eq_self.mpr fun selector among => by rw [(each selector among).1]; rfl]
    exact (List.map_congr_left fun selector among => (each selector among).2).trans (List.map_id' _)
  have filters : b.filters.filter (fun entry => entry.2.selector ≠ "") = b.filters :=
    List.filter_eq_self.mpr fun entry among => decide_eq_true (complete_filters made entry among)
  have elements : Entries.mapValues Text.strip
      (b.elements.filter fun entry => !Text.isBlankText entry.2) = b.elements := by
    have each := complete_elements made
    rw [List.filter_eq_self.mpr fun entry among => by rw [(each entry among).1]; rfl]
    exact (List.map_congr_left fun entry among =>
      congrArg (Prod.mk entry.1) (each entry among).2).trans (List.map_id' _)
  rw [trimmed, id, urlPattern, details, filters, elements,
    strip reads.list ⟨rfl, by decide⟩ (by decide) (by decide) (by decide),
    strip reads.listItem ⟨rfl, by decide⟩ (by decide) (by decide) (by decide),
    strip? reads.searchBox ⟨rfl, by decide⟩ (by decide) (by decide) (by decide),
    strip? reads.searchSubmit ⟨rfl, by decide⟩ (by decide) (by decide) (by decide),
    strip? reads.listItemActive ⟨rfl, by decide⟩ (by decide) (by decide) (by decide),
    strip? reads.detailsPanel ⟨rfl, by decide⟩ (by decide) (by decide) (by decide),
    strip? reads.scrollContainer ⟨rfl, by decide⟩ (by decide) (by decide) (by decide),
    strip? reads.loadMoreButton ⟨rfl, by decide⟩ (by decide) (by decide) (by decide),
    strip? reads.nextPageButton ⟨rfl, by decide⟩ (by decide) (by decide) (by decide),
    strip? reads.closeDetailsButton ⟨rfl, by decide⟩ (by decide) (by decide) (by decide)]

/-!
## Nothing is left to fill
-/

/-- A part that a record has is given in what it is written as. -/
theorem given?_optional {α : Type} {encode : α → Json} {key : String} {part : Option α}
    {value : Json} (found : Entries.find? key b.allFields = some value)
    (written : value = (part.map encode).getD .null) (truthy : ∀ one, (encode one).truthy = true) :
    Complete.given? key b.toFields = part.map encode := by
  have given (one : α) : (encode one).isNull = false := by
    have something := truthy one
    cases same : encode one <;> first | rfl | (rw [same] at something; cases something)
  have held : Entries.find? key b.toFields = part.map encode := value?_optional found written given
  rw [Complete.given?, held]
  cases part with
  | none => rfl
  | some one => rw [Option.map_some, Option.filter_some, truthy, if_pos rfl]

theorem given?_text (key text : String) (found : Entries.find? key b.allFields = some (.str text)) :
    Complete.given? key b.toFields = if text = "" then none else some (.str text) := by
  have held : Entries.find? key b.toFields = some (.str text) := value?_of_part found rfl rfl
  rw [Complete.given?, held, Option.filter_some, Json.truthy]
  by_cases empty : text = "" <;> simp [empty]

/-- There is nothing to fill in what a completed record is written as. -/
theorem fill_complete (made : complete now raw url = .ok b) :
    Complete.fill b.toFields = b.toFields := by
  have full := complete_full made
  have condition {key : String} {part : Option StateCondition} {value : Json}
      (found : Entries.find? key b.allFields = some value)
      (written : value = (part.map StateCondition.toJson).getD .null) (there : part.isSome = true) :
      (Complete.given? key b.toFields).isSome = true := by
    rw [given?_optional found written StateCondition.truthy_toJson, Option.isSome_map, there]
  have item := @given?_text b "LIST_ITEM" b.listItem rfl
  have followsItem {key : String} {part : Option StateCondition} {value : Json}
      {follow : Json → Json} (found : Entries.find? key b.allFields = some value)
      (written : value = (part.map StateCondition.toJson).getD .null)
      (there : b.listItem ≠ "" → part.isSome = true) :
      (Complete.given? key b.toFields).isSome = true ∨
        (Complete.given? "LIST_ITEM" b.toFields).map follow = none := by
    by_cases empty : b.listItem = ""
    · rw [item, if_pos empty]
      exact .inr rfl
    · exact .inl (condition found written (there empty))
  have details : (Complete.given? "DETAILS_CONTENT" b.toFields).isSome = true ∨
      ((Complete.given? "DETAILS_PANEL" b.toFields).map fun panel => Json.arr [panel]) = none := by
    have held : Entries.find? "DETAILS_CONTENT" b.toFields = some (.ofStrings b.detailsContent) :=
      value?_of_part rfl rfl rfl
    rw [Complete.given?, held]
    rcases complete_details made with given | ⟨-, ⟨panel, -, same⟩ | ⟨noPanel, -⟩⟩
    · rw [Option.filter_some, (Complete.given?_eq_some given).2]
      exact .inl rfl
    · rw [same]
      exact .inl rfl
    · obtain ⟨pattern, -, reads⟩ := complete_reads made
      have panel := completed_text? (value?_completed (by decide) (by decide) (by decide))
        reads.detailsPanel
      have written : Entries.find? "DETAILS_PANEL" b.toFields = b.detailsPanel.map .str :=
        value?_optional rfl (by cases b.detailsPanel <;> rfl) fun _ => rfl
      rw [Complete.given?, panel] at noPanel
      rw [Complete.given?, written, noPanel]
      exact .inr rfl
  refine Complete.fill_eq_self ?_
  simp only [Complete.defaults, List.forall_mem_cons, List.not_mem_nil, IsEmpty.forall_iff,
    implies_true, and_true]
  refine ⟨.inl ?_, .inl ?_, details,
    .inl (condition rfl (by cases b.states.pageLoaded <;> rfl) full.pageLoaded),
    followsItem rfl (by cases b.states.listLoaded <;> rfl) full.listLoaded,
    followsItem rfl (by cases b.states.listUpdated <;> rfl) full.listUpdated,
    .inl (condition rfl (by cases b.states.detailsLoaded <;> rfl) full.detailsLoaded),
    .inl (condition rfl (by cases b.states.noMoreItems <;> rfl) full.noMoreItems), .inl ?_⟩
  · rw [@given?_optional b _ (fun behavior => .str behavior.name) _ b.clickBehavior _ rfl
      (by cases b.clickBehavior <;> rfl) fun behavior => by cases behavior <;> rfl,
      Option.isSome_map, full.clickBehavior]
  · rw [@given?_optional b _ (fun behavior => .str behavior.name) _ b.scrollBehavior _ rfl
      (by cases b.scrollBehavior <;> rfl) fun behavior => by cases behavior <;> rfl,
      Option.isSome_map, full.scrollBehavior]
  · rw [@given?_optional b _ ItemIdRule.toJson _ b.itemId _ rfl rfl fun _ => rfl,
      Option.isSome_map, full.itemId]

theorem complete_id_ne (made : complete now raw url = .ok b) : b.id ≠ "" := by
  rcases complete_id made with given | ⟨-, same⟩
  · exact bne_iff_ne.mp (Complete.given?_eq_some given).2
  · rw [same, timedId]
    simp

/-- What a completed record is written as is completed to that record: only its time is new. -/
theorem complete_again (bare : ∀ host, Url.host url = .ok host → Text.strip host = host)
    (made : complete now raw url = .ok b) (later : Float) :
    complete later b.toFields url = .ok { b with updatedAt := later } := by
  have settled : Coerce.fields b.toFields = b.toFields := by
    rw [fields_toFields, complete_trimmed bare made]
  have filled : Complete.fill (Coerce.fields b.toFields) = b.toFields := by
    rw [settled, fill_complete made]
  have id : idOf later b.toFields = .str b.id := by
    rw [idOf, filled, given?_text "id" b.id rfl, if_neg (complete_id_ne made), Option.getD_some]
  have pattern : patternOf b.toFields url = .ok (.str b.urlPattern) := by
    unfold patternOf
    rw [filled, given?_text "urlPattern" b.urlPattern rfl]
    rcases complete_urlPattern made with given | ⟨-, host⟩
    · rw [if_neg (bne_iff_ne.mp (Complete.given?_eq_some given).2)]
    · rw [host]
      by_cases empty : b.urlPattern = ""
      · rw [if_pos empty]
        rfl
      · rw [if_neg empty]
  have written : completed (.str b.urlPattern) (.str b.id) later b.toFields =
      toFields { b with version := 1, updatedAt := later } := by
    rw [completed, filled]
    rfl
  rw [complete_of_pattern pattern, id, written, ← complete_version made]
  exact ofFieldsOrFault_eq_ok.mpr (readsFrom_toFields later _)

/-!
## What is given is kept
-/

/-- The record has a value that was given under a key. Filters and the rule for ids are what the
value is read as, since they are written with what it leaves to them. -/
def Keeps (key : String) (value : Json) (b : PageBindings) : Prop :=
  match key with
  | "FILTERS" => Reading.entries FilterBinding.read value = .ok b.filters
  | "ELEMENTS" => Reading.entries Reading.string value = .ok b.elements
  | "DETAILS_CONTENT" => value = .ofStrings b.detailsContent
  | "ITEM_ID" => ∃ rule, ItemIdRule.read value = .ok rule ∧ b.itemId = some rule
  | other => b.value? other = some value

theorem complete_keeps (made : complete now raw url = .ok b) {key : String} {value : Json}
    (timeless : key ∉ ["version", "updatedAt"])
    (given : Complete.given? key (Coerce.fields raw) = some value) : b.Keeps key value := by
  obtain ⟨found, -⟩ := Complete.given?_eq_some given
  obtain ⟨field, -, spelled, -⟩ := Coerce.find?_fields found
  have known := BindingKey.mem_wires spelled
  have settled := Coerce.settled_of_find? found
  have nonnull := Coerce.given_of_value? settled
  by_cases isId : key = "id"
  · subst isId
    rcases complete_id made with own | ⟨none, -⟩
    · cases given.symm.trans own
      exact value?_of_part rfl rfl rfl
    · cases given.symm.trans none
  by_cases isPattern : key = "urlPattern"
  · subst isPattern
    rcases complete_urlPattern made with own | ⟨none, -⟩
    · cases given.symm.trans own
      exact value?_of_part rfl rfl rfl
    · cases given.symm.trans none
  have others : ∀ key ∈ wires, key ∉ ["version", "updatedAt"] → key ≠ "id" → key ≠ "urlPattern" →
      key ∈ BindingKey.fixable ∧ key ∉ ["urlPattern", "id", "version", "updatedAt"] := by decide
  obtain ⟨fixable, settable⟩ := others key known timeless isId isPattern
  obtain ⟨pattern, -, reads⟩ := complete_reads made
  have held : Entries.find? key (completed pattern (idOf now raw) now raw) = some value := by
    rw [find?_completed settable]
    exact (Complete.given?_eq_some (Complete.given?_fill_of_given given)).1
  unfold Keeps
  split
  next => exact reads_first reads.filters held
  next => exact reads_first reads.elements held
  next => exact Reading.strings_eq_ok.mp (reads_first reads.detailsContent held)
  next =>
    obtain ⟨rule, taken, read⟩ := Reading.orNull_eq_ok (reads_first reads.itemId held) nonnull
    exact ⟨rule, read, taken⟩
  next noFilters noElements noDetails noRule =>
    have single : key ∉ ["DETAILS_CONTENT", "FILTERS", "ELEMENTS", "ITEM_ID"] := by
      simp only [List.mem_cons, List.not_mem_nil, or_false, not_or]
      exact ⟨noDetails, noFilters, noElements, noRule⟩
    exact value?_read fixable single reads held nonnull settled

/-- The scroll behaviour that a button is missing for is the one that the raw fields give. -/
theorem complete_scroll (made : complete now raw url = .ok b) {behavior : ScrollBehavior}
    (scrolls : b.scrollBehavior = some behavior) (missing : b.hasButton = false) :
    Complete.given? "SCROLL_BEHAVIOR" (Coerce.fields raw) = some (.str behavior.name) := by
  have lacking : ¬ Complete.GivesButton raw := by
    rw [← complete_hasButton made, missing]
    exact Bool.false_ne_true
  have some : ∃ value, Complete.given? "SCROLL_BEHAVIOR" (Coerce.fields raw) = some value := by
    rcases not_and_or.mp lacking with more | next
    · exact ⟨_, (Classical.not_imp.mp more).1⟩
    · exact ⟨_, (Classical.not_imp.mp next).1⟩
  obtain ⟨value, given⟩ := some
  have kept : b.value? "SCROLL_BEHAVIOR" = Option.some value :=
    complete_keeps made (by decide) given
  have written : b.value? "SCROLL_BEHAVIOR" = Option.some (.str behavior.name) :=
    value?_of_part rfl (by rw [scrolls]; rfl) rfl
  rw [given, ← kept, written]

end PageBindings

/-- What the errors of a completed record come from: no default is an error, the condition for the
list is missing only with the selector of its items, and for the rest it is the raw fields that
give too little or name a scroll behaviour without its button. -/
structure Complete.Accounts (raw : Fields) (errors : List String) : Prop where
  itemId : "ITEM_ID extractor is required" ∉ errors
  detailsLoaded : "DETAILS_LOADED condition is required" ∉ errors
  listLoaded : "LIST_LOADED condition is required" ∈ errors →
    "LIST_ITEM selector is required" ∈ errors
  details : "DETAILS_CONTENT selectors are required" ∈ errors ↔ ¬ GivesDetails raw
  loadMoreButton :
    "LOAD_MORE_BUTTON required when SCROLL_BEHAVIOR is load_more_button" ∈ errors →
      given? "SCROLL_BEHAVIOR" (Coerce.fields raw) = some (.str "load_more_button")
  nextPageButton : "NEXT_PAGE_BUTTON required when SCROLL_BEHAVIOR is paginated" ∈ errors →
    given? "SCROLL_BEHAVIOR" (Coerce.fields raw) = some (.str "paginated")

namespace PageBindings

variable {now : Float} {raw : Fields} {url : String} {b : PageBindings}

theorem complete_accounts (made : complete now raw url = .ok b) :
    Complete.Accounts raw b.report.errors := by
  have full := complete_full made
  have error (text : String) : text ∈ b.report.errors ↔
      (false, text) ∈ BindingReport.demands b.toFields := BindingReport.mem_errors
  simp only [demands_toFields] at error
  have unloaded : "LIST_LOADED condition is required" ∈ b.report.errors ↔
      b.states.listLoaded.isSome = false := by simp [error]
  have more : "LOAD_MORE_BUTTON required when SCROLL_BEHAVIOR is load_more_button" ∈
      b.report.errors ↔ b.scrollBehavior = some .loadMoreButton ∧ isNamed b.loadMoreButton = false :=
    by simp [error]
  have next : "NEXT_PAGE_BUTTON required when SCROLL_BEHAVIOR is paginated" ∈ b.report.errors ↔
      b.scrollBehavior = some .paginated ∧ isNamed b.nextPageButton = false := by simp [error]
  exact {
    itemId := by simp [error, full.itemId]
    detailsLoaded := by simp [error, full.detailsLoaded]
    listLoaded := fun missing => by
      have empty : b.listItem = "" := by
        by_contra named
        exact Bool.false_ne_true ((unloaded.mp missing).symm.trans (full.listLoaded named))
      have blank : Text.isBlankText b.listItem = true := by
        rw [empty]
        rfl
      simp [error, blank]
    details := by
      rw [← complete_showsDetails made]
      simp [error]
    loadMoreButton := fun missing => by
      obtain ⟨scrolls, unnamed⟩ := more.mp missing
      exact complete_scroll made scrolls (by rw [hasButton, scrolls]; exact unnamed)
    nextPageButton := fun missing => by
      obtain ⟨scrolls, unnamed⟩ := next.mp missing
      exact complete_scroll made scrolls (by rw [hasButton, scrolls]; exact unnamed) }

/-- A completed record has every default, its errors come from what the raw fields lack, it keeps
what they give, and it is completed to itself again, up to its time. The host of the page stands for
a pattern that is not given, so it has to be trimmed like one. -/
theorem complete_settles (bare : ∀ host, Url.host url = .ok host → Text.strip host = host)
    (made : complete now raw url = .ok b) :
    b.Full ∧ Complete.Accounts raw b.report.errors ∧
      (∀ key value, key ∉ ["version", "updatedAt"] →
        Complete.given? key (Coerce.fields raw) = some value → b.Keeps key value) ∧
      ∀ later, complete later b.toFields url = .ok { b with updatedAt := later } :=
  ⟨complete_full made, complete_accounts made, fun _ _ => complete_keeps made,
    complete_again bare made⟩

end PageBindings

/-- A reply with shorthands, which names no place for details and no button for its pages. -/
def Examples.pagedReply : Fields :=
  [("list_container", .str " ul.jobs "), ("LIST_ITEM", .str "li"), ("item_id", .str "data-id"),
    ("FILTERS", .obj [("date", .str " .date "), ("salary", .null)]),
    ("SCROLL_BEHAVIOR", .str "paginated")]

open Examples in
theorem PageBindings.complete_settles_paged :
    ∃ b, complete 0 pagedReply "https://jobs.example.com/list" = .ok b ∧ b.Full ∧
      b.report.errors = ["DETAILS_CONTENT selectors are required",
        "NEXT_PAGE_BUTTON required when SCROLL_BEHAVIOR is paginated"] ∧
      b.Keeps "LIST" (.str "ul.jobs") ∧
      b.Keeps "FILTERS" (.obj [("date", .obj [("selector", .str ".date")])]) ∧
      complete 1 b.toFields "https://jobs.example.com/list" = .ok { b with updatedAt := 1 } := by
  have bare : ∀ host, Url.host "https://jobs.example.com/list" = .ok host →
      Text.strip host = host := by
    have host : Url.host "https://jobs.example.com/list" = .ok "jobs.example.com" := by
      decide +kernel
    intro other same
    cases host.symm.trans same
    decide
  have completed : (complete 0 pagedReply "https://jobs.example.com/list").toOption.map
      (·.report.errors) = some ["DETAILS_CONTENT selectors are required",
        "NEXT_PAGE_BUTTON required when SCROLL_BEHAVIOR is paginated"] := by
    decide +kernel
  rcases made : complete 0 pagedReply "https://jobs.example.com/list" with fault | b
  · rw [made] at completed
    cases completed
  · rw [made] at completed
    obtain ⟨full, -, keeps, again⟩ := complete_settles bare made
    exact ⟨b, rfl, full, Option.some.inj completed, keeps _ _ (by decide) rfl,
      keeps _ _ (by decide) rfl, again 1⟩

end Gleaner
