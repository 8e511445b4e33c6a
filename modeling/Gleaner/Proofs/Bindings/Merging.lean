import Gleaner.Bindings.Examples
import Gleaner.Proofs.Advisor.Discovery
import Gleaner.Proofs.Advisor.Fix
import Gleaner.Proofs.Store.Distinct

/-!
# What a patch changes

A patch that is accepted changes what it names and nothing else. Under a key that it names the
new record has the patch's value in its normal form, joined with what was there for filters and
elements, name by name, and for details selectors, in order; under any other key it is written
as it was. It stays the record of its site, in its next version. The record before it is a value
that the new one is computed from, and stays what it was.
-/

set_option autoImplicit false

namespace Gleaner

/-!
## Texts that are told once
-/

/-- Of texts that occur more than once the first occurrence stays. -/
theorem distinct_eq_eraseDups (texts : List String) : distinct texts = texts.eraseDups := by
  have gathered (seen : List String) : texts.foldl (fun seen text =>
      if seen.contains text then seen else seen ++ [text]) seen =
        seen ++ (texts.filter (· ∉ seen)).eraseDups := by
    induction texts generalizing seen with
    | nil => simp
    | cons text rest ih =>
        rw [List.foldl_cons, ih, List.filter_cons]
        by_cases known : text ∈ seen
        · simp [known]
        · have others : (rest.filter (· ∉ seen)).filter (fun other => !other == text) =
              rest.filter (· ∉ seen ++ [text]) := by
            rw [List.filter_filter]
            refine List.filter_congr fun other _ => ?_
            by_cases same : other = text <;> simp [same]
          simp only [List.contains_eq_mem, known, decide_false, Bool.false_eq_true, if_false,
            not_false_eq_true, decide_true, if_true, List.eraseDups_cons, List.append_assoc,
            List.singleton_append, others]
  exact (gathered []).trans (by simp)

/-- Of texts that are put before others, those come first, and of the others what is new. -/
theorem distinct_append (first second : List String) :
    distinct (first ++ second) = first.eraseDups ++ (second.filter (· ∉ first)).eraseDups := by
  rw [distinct_eq_eraseDups, List.eraseDups_append]
  simp [List.removeAll]

theorem nodup_distinct (texts : List String) : (distinct texts).Nodup := by
  have gathered (seen : List String) (once : seen.Nodup) : (texts.foldl (fun seen text =>
      if seen.contains text then seen else seen ++ [text]) seen).Nodup := by
    induction texts generalizing seen with
    | nil => exact once
    | cons text rest ih =>
        rw [List.foldl_cons]
        refine ih _ ?_
        by_cases known : seen.contains text = true
        · rw [if_pos known]
          exact once
        · rw [if_neg known]
          rw [List.contains_iff_mem] at known
          exact List.nodup_append.mpr ⟨once, List.nodup_singleton text, by grind⟩
  exact gathered [] List.nodup_nil

/-!
## Entries by name
-/

namespace Entries

variable {α β : Type}

theorem Alike.find?_some {together : α → β → Prop} {entries : Entries α} {others : Entries β}
    (alike : Alike together entries others) {name : String} {value : α}
    (found : Entries.find? name entries = some value) :
    ∃ other, Entries.find? name others = some other ∧ together value other :=
  alike.swap.find? found

theorem Alike.find?_none {together : α → β → Prop} {entries : Entries α} {others : Entries β}
    (alike : Alike together entries others) {name : String}
    (absent : Entries.find? name entries = none) : Entries.find? name others = none := by
  cases there : Entries.find? name others with
  | none => rfl
  | some other =>
      obtain ⟨value, found, _⟩ := alike.find? there
      cases absent.symm.trans found

theorem find?_mapValues (f : α → β) (name : String) (entries : Entries α) :
    find? name (entries.mapValues f) = (find? name entries).map f := by
  induction entries with
  | nil => rfl
  | cons entry rest ih =>
      obtain ⟨k, v⟩ := entry
      rw [mapValues, List.map_cons, find?, find?]
      split
      · rfl
      · exact ih

/-- Entries joined with given ones: under each name that is given there is what was read for it,
and under every other name what was there. -/
def Joins (read : Reading α) (given : Fields) (old new : Entries α) : Prop :=
  ∀ name,
    match Entries.find? name given with
    | some value => ∃ part, read value = .ok part ∧ Entries.find? name new = some part
    | none => Entries.find? name new = Entries.find? name old

/-- Entries that are read from what was written, with given entries written over it, are joined
with these. -/
theorem joins_of_read {read : Reading α} {write : α → Json} {given : Fields} {old new : Entries α}
    (once : (given.map (·.1)).Nodup) (written : ∀ part, read (write part) = .ok part)
    (made : Reading.entries read (.obj (overlay (old.mapValues write) given)) = .ok new) :
    Joins read given old new := by
  obtain ⟨_, same, alike⟩ := Reading.entries_eq_ok.mp made
  cases same
  intro name
  have laid := find?_overlay name (old.mapValues write) given
  rw [Json.ofPairs_new once, find?_mapValues] at laid
  cases found : find? name given with
  | some value =>
      rw [found, Option.some_or] at laid
      obtain ⟨part, there, made⟩ := alike.find?_some laid
      exact ⟨part, made, there⟩
  | none =>
      rw [found, Option.none_or] at laid
      cases kept : find? name old with
      | none =>
          rw [kept] at laid
          exact alike.find?_none laid
      | some part =>
          rw [kept] at laid
          obtain ⟨again, there, made⟩ := alike.find?_some laid
          cases made.symm.trans (written part)
          exact there

end Entries

/-!
## The fields of a merged record
-/

theorem Coerce.nodup_fields (raw : Fields) : ((Coerce.fields raw).map (·.1)).Nodup := by
  have gathered (done : Fields) (once : (done.map (·.1)).Nodup) :
      ((raw.foldl Coerce.takeIn done).map (·.1)).Nodup := by
    induction raw generalizing done with
    | nil => exact once
    | cons field rest ih =>
        refine ih _ ?_
        unfold Coerce.takeIn
        split
        · exact once
        · split
          · exact Entries.nodup_put _ _ once
          · exact once
  exact gathered [] List.nodup_nil

theorem Patch.find?_changes {key : String} (settable : BindingKey.isMeta key = false)
    (patch : Fields) :
    Entries.find? key (Patch.changes patch) = Entries.find? key (Coerce.fields patch) := by
  unfold Patch.changes
  induction Coerce.fields patch with
  | nil => rfl
  | cons field rest ih =>
      obtain ⟨k, v⟩ := field
      rw [List.filter_cons]
      by_cases same : k = key
      · subst same
        simp [settable, Entries.find?]
      · cases isMeta : BindingKey.isMeta k <;> simp [Entries.find?, same, ih]

theorem Coerce.details_texts {value coerced : Json}
    (made : Coerce.value? "DETAILS_CONTENT" value = some coerced) :
    ∃ selectors, coerced = .ofStrings selectors := by
  cases value <;> cases made <;> exact ⟨_, rfl⟩

theorem Coerce.filters_named {value coerced : Json}
    (made : Coerce.value? "FILTERS" value = some coerced) : ∃ entries, coerced = .obj entries := by
  cases value <;> cases made <;> exact ⟨_, rfl⟩

theorem Coerce.elements_named {value coerced : Json}
    (made : Coerce.value? "ELEMENTS" value = some coerced) : ∃ entries, coerced = .obj entries := by
  cases value <;> cases made
  exact ⟨_, rfl⟩

namespace PageBindings

/-- Each change is joined with what was there before any of them. -/
theorem find?_joinAll_of_change {key : String} {value : Json} {changes : Fields}
    (once : (changes.map (·.1)).Nodup) (found : Entries.find? key changes = some value)
    (fields : Fields) :
    Entries.find? key (joinAll changes fields) =
      some (Patch.joined key (Entries.find? key fields) value) := by
  induction changes generalizing fields with
  | nil => cases found
  | cons change rest ih =>
      obtain ⟨k, v⟩ := change
      obtain ⟨fresh, others⟩ := List.nodup_cons.mp once
      rw [joinAll, List.foldl_cons]
      rw [Entries.find?] at found
      by_cases same : k = key
      · subst same
        rw [if_pos rfl] at found
        cases found
        have unchanged : ∀ change ∈ rest, change.1 ≠ k := fun change later same =>
          fresh (List.mem_map.mpr ⟨change, later, same⟩)
        exact (find?_joinAll unchanged _).trans (by rw [Entries.find?_put, if_pos rfl])
      · rw [if_neg same] at found
        exact (ih others found _).trans (by rw [Entries.find?_put, if_neg same])

section Merged

variable {now : Float} {b merged : PageBindings} {patch : Fields} {key : String} {value : Json}

/-- The fields that a merged record is read from. -/
def mergedFields (now : Float) (b : PageBindings) (patch : Fields) : Fields :=
  Entries.overlay (joinAll (Patch.changes patch) b.toFields)
    [("version", .int (b.version + 1)), ("updatedAt", .float now)]

theorem find?_mergedFields (unversioned : key ≠ "version") (untimed : key ≠ "updatedAt") :
    Entries.find? key (mergedFields now b patch) =
      Entries.find? key (joinAll (Patch.changes patch) b.toFields) := by
  simp only [mergedFields, Entries.overlay, List.foldl_cons, List.foldl_nil, Entries.find?_put,
    if_neg unversioned.symm, if_neg untimed.symm]

theorem nodup_changes (patch : Fields) : ((Patch.changes patch).map (·.1)).Nodup :=
  (Coerce.nodup_fields patch).sublist (List.filter_sublist.map _)

/-- A key that the patch leaves alone has the value that was written before. -/
theorem find?_mergedFields_of_none (unversioned : key ≠ "version") (untimed : key ≠ "updatedAt")
    (unnamed : Entries.find? key (Patch.changes patch) = none) :
    Entries.find? key (mergedFields now b patch) = b.value? key := by
  rw [find?_mergedFields unversioned untimed]
  refine find?_joinAll (fun change among same => ?_) _
  subst same
  cases unnamed.symm.trans (Entries.find?_of_mem (nodup_changes patch) among)

/-- A key that the patch names has the joined value. -/
theorem find?_mergedFields_of_some (unversioned : key ≠ "version") (untimed : key ≠ "updatedAt")
    (named : Entries.find? key (Patch.changes patch) = some value) :
    Entries.find? key (mergedFields now b patch) =
      some (Patch.joined key (b.value? key) value) := by
  rw [find?_mergedFields unversioned untimed]
  exact find?_joinAll_of_change (nodup_changes patch) named _

theorem wired_mergedFields : Fields.Wired (mergedFields now b patch) := by
  intro wire unknown
  have unversioned : wire ≠ "version" := fun same => unknown (same ▸ by decide)
  have untimed : wire ≠ "updatedAt" := fun same => unknown (same ▸ by decide)
  have unnamed : Entries.find? wire (Patch.changes patch) = none := by
    cases named : Entries.find? wire (Patch.changes patch) with
    | none => rfl
    | some value =>
        have among := (List.mem_filter.mp (Entries.mem_of_find? named)).1
        have found := Entries.find?_of_mem (Coerce.nodup_fields patch) among
        cases (Coerce.wired_fields patch wire unknown).symm.trans found
  rw [find?_mergedFields_of_none unversioned untimed unnamed]
  exact value?_eq_none unknown b

end Merged

/-- What a record is written with under a key depends on nothing but what was read there. -/
theorem ReadsFrom.value?_congr {now later : Float} {fields others : Fields} {b c : PageBindings}
    (reads : b.ReadsFrom now fields) (otherReads : c.ReadsFrom later others)
    (wired : Fields.Wired fields) (otherWired : Fields.Wired others) {key : String}
    (untimed : key ≠ "updatedAt") (same : Entries.find? key fields = Entries.find? key others) :
    b.value? key = c.value? key := by
  have one {α : Type} {name : FieldName} {default x y : α} {read : Reading α}
      (spelled : ∀ other ∈ name.others, other ∉ wires)
      (first : Fields.Reads fields name default read x)
      (second : Fields.Reads others name default read y) (here : name.wire = key) : x = y := by
    subst here
    rw [Fields.Reads, wired.value?_eq spelled, same, ← otherWired.value?_eq spelled] at first
    exact Except.ok.inj (first.symm.trans second)
  rw [value?_eq_filter, value?_eq_filter]
  congr 1
  refine Entries.find?_congr ?_
  simp only [allFields, List.forall₂_cons, List.Forall₂.nil, and_true, true_and]
  refine ⟨fun here => by rw [one (by decide) reads.id otherReads.id here],
    fun here => by rw [one (by decide) reads.urlPattern otherReads.urlPattern here],
    fun here => by rw [one (by decide) reads.version otherReads.version here],
    fun here => absurd here.symm untimed,
    fun here => by rw [one (by decide) reads.searchBox otherReads.searchBox here],
    fun here => by rw [one (by decide) reads.searchSubmit otherReads.searchSubmit here],
    fun here => by rw [one (by decide) reads.list otherReads.list here],
    fun here => by rw [one (by decide) reads.listItem otherReads.listItem here],
    fun here => by rw [one (by decide) reads.listItemActive otherReads.listItemActive here],
    fun here => by rw [one (by decide) reads.detailsPanel otherReads.detailsPanel here],
    fun here => by rw [one (by decide) reads.detailsContent otherReads.detailsContent here],
    fun here => by rw [one (by decide) reads.filters otherReads.filters here],
    fun here => by rw [one (by decide) reads.elements otherReads.elements here],
    fun here => by rw [one (by decide) reads.scrollContainer otherReads.scrollContainer here],
    fun here => by rw [one (by decide) reads.loadMoreButton otherReads.loadMoreButton here],
    fun here => by rw [one (by decide) reads.nextPageButton otherReads.nextPageButton here],
    fun here => by rw [one (by decide) reads.states.pageLoaded otherReads.states.pageLoaded here],
    fun here => by rw [one (by decide) reads.states.listLoaded otherReads.states.listLoaded here],
    fun here => by
      rw [one (by decide) reads.states.listUpdated otherReads.states.listUpdated here],
    fun here => by
      rw [one (by decide) reads.states.detailsLoaded otherReads.states.detailsLoaded here],
    fun here => by
      rw [one (by decide) reads.states.noMoreItems otherReads.states.noMoreItems here],
    fun here => by rw [one (by decide) reads.states.listEmpty otherReads.states.listEmpty here],
    fun here => by rw [one (by decide) reads.states.loading otherReads.states.loading here],
    fun here => by rw [one (by decide) reads.itemId otherReads.itemId here],
    fun here => by rw [one (by decide) reads.scrollBehavior otherReads.scrollBehavior here],
    fun here => by rw [one (by decide) reads.clickBehavior otherReads.clickBehavior here],
    fun here => by rw [one (by decide) reads.returnToList otherReads.returnToList here],
    fun here => by
      rw [one (by decide) reads.closeDetailsButton otherReads.closeDetailsButton here]⟩

end PageBindings

/-!
## What merging makes of a record
-/

namespace PageBindings

/-- What merging makes of a key that a patch names. -/
def Gains (key : String) (value : Json) (b merged : PageBindings) : Prop :=
  match key with
  | "DETAILS_CONTENT" =>
      ∃ selectors, value = .ofStrings selectors ∧ merged.detailsContent.Nodup ∧
        merged.detailsContent =
          selectors.eraseDups ++ (b.detailsContent.filter (· ∉ selectors)).eraseDups ∧
        ∀ selector ∈ b.detailsContent, selector ∈ merged.detailsContent
  | "FILTERS" =>
      ∃ given, value = .obj given ∧
        Entries.Joins FilterBinding.read given b.filters merged.filters
  | "ELEMENTS" =>
      ∃ given, value = .obj given ∧
        Entries.Joins Reading.string given b.elements merged.elements
  | "ITEM_ID" => ∃ rule, ItemIdRule.read value = .ok rule ∧ merged.itemId = some rule
  | other => merged.value? other = some value

section Law

variable {now : Float} {b merged : PageBindings} {patch : Fields} {key : String} {value : Json}

theorem fixable_of_settable (settable : BindingKey.isMeta key = false) (known : key ∈ wires) :
    key ∈ BindingKey.fixable := by
  have each : ∀ key ∈ wires, BindingKey.isMeta key = false → key ∈ BindingKey.fixable := by decide
  exact each key known settable

theorem gains_details {selectors : List String} {old : List String}
    (made : merged.detailsContent = distinct (selectors ++ old)) :
    merged.detailsContent.Nodup ∧
      merged.detailsContent = selectors.eraseDups ++ (old.filter (· ∉ selectors)).eraseDups ∧
      ∀ selector ∈ old, selector ∈ merged.detailsContent := by
  rw [made]
  refine ⟨nodup_distinct _, distinct_append selectors old, fun selector among => ?_⟩
  rw [distinct_eq_eraseDups, List.mem_eraseDups]
  exact List.mem_append_right _ among

/-- Under a key that the patch names there is what the merge makes of its value. -/
theorem gains_of_change (keyed : Json.Keyed (.obj patch))
    (reads : merged.ReadsFrom now (mergedFields now b patch))
    (settable : BindingKey.isMeta key = false)
    (named : Entries.find? key (Coerce.fields patch) = some value) : b.Gains key value merged := by
  obtain ⟨unversioned, untimed⟩ : key ≠ "version" ∧ key ≠ "updatedAt" := by
    constructor <;> rintro rfl <;> cases settable
  have held : Entries.find? key (mergedFields now b patch) =
      some (Patch.joined key (b.value? key) value) :=
    find?_mergedFields_of_some unversioned untimed
      ((Patch.find?_changes settable patch).trans named)
  obtain ⟨field, among, spelled, coerced⟩ := Coerce.find?_fields named
  have settled := Coerce.value?_settles key field.2 value coerced
  have given := Coerce.given_of_value? settled
  have raw : Json.Keyed field.2 := by
    cases keyed with
    | obj _ each => exact each field among
  unfold Gains
  split
  next =>
    obtain ⟨selectors, rfl⟩ := Coerce.details_texts coerced
    have made : Reading.list Reading.string (.ofStrings selectors) = .ok selectors :=
      Reading.strings_eq_ok.mpr rfl
    refine ⟨selectors, rfl, gains_details ?_⟩
    have read := reads_first reads.detailsContent held
    exact Except.ok.inj (read.symm.trans (reads_details rfl made))
  next =>
    obtain ⟨entries, rfl⟩ := Coerce.filters_named coerced
    rw [value?_filters] at held
    exact ⟨entries, rfl, Entries.joins_of_read
      (Coerce.once_value? (.inl rfl) raw coerced _ rfl) FilterBinding.read_toJson
      (reads_first reads.filters held)⟩
  next =>
    obtain ⟨entries, rfl⟩ := Coerce.elements_named coerced
    rw [value?_elements] at held
    exact ⟨entries, rfl, Entries.joins_of_read
      (Coerce.once_value? (.inr rfl) raw coerced _ rfl) (fun _ => Reading.string_eq_ok.mpr rfl)
      (reads_first reads.elements held)⟩
  next =>
    obtain ⟨rule, taken, read⟩ := Reading.orNull_eq_ok (reads_first reads.itemId held) given
    exact ⟨rule, read, taken⟩
  next noDetails noFilters noElements noRule =>
    have single : key ∉ ["DETAILS_CONTENT", "FILTERS", "ELEMENTS", "ITEM_ID"] := by
      simp only [List.mem_cons, List.not_mem_nil, or_false, not_or]
      exact ⟨noDetails, noFilters, noElements, noRule⟩
    have alone : Patch.joined key (b.value? key) value = value := by
      have named : ¬ (key = "FILTERS" ∨ key = "ELEMENTS") := not_or.mpr ⟨noFilters, noElements⟩
      simp only [Patch.joined, Bool.or_eq_true, decide_eq_true_eq, if_neg named]
      exact if_neg noDetails
    rw [alone] at held
    have fixable := fixable_of_settable settable (BindingKey.mem_wires spelled)
    exact value?_read fixable single reads held given settled

/-- A patch that is accepted makes the next version of the same record. -/
theorem merge_law (keyed : Json.Keyed (.obj patch)) (accepted : b.merge now patch = .ok merged) :
    merged.id = b.id ∧ merged.urlPattern = b.urlPattern ∧ merged.version = b.version + 1 ∧
      merged.updatedAt = now ∧
      ∀ key, BindingKey.isMeta key = false →
        match Entries.find? key (Coerce.fields patch) with
        | some value => b.Gains key value merged
        | none => merged.value? key = b.value? key := by
  obtain ⟨version, id, urlPattern⟩ := merge_identity accepted
  have reads : merged.ReadsFrom now (mergedFields now b patch) := ofFieldsOrFault_eq_ok.mp accepted
  refine ⟨id, urlPattern, version, ?_, fun key settable => ?_⟩
  · have timed : Reading.float (.float now) = .ok merged.updatedAt :=
      reads_first reads.updatedAt (by simp [mergedFields, Entries.overlay, Entries.find?_put])
    exact (Except.ok.inj timed).symm
  · split
    next value named => exact gains_of_change keyed reads settable named
    next unnamed =>
      have own := b.readsFrom_toFields now
      obtain ⟨unversioned, untimed⟩ : key ≠ "version" ∧ key ≠ "updatedAt" := by
        constructor <;> rintro rfl <;> cases settable
      refine reads.value?_congr own wired_mergedFields b.wired_toFields untimed ?_
      exact find?_mergedFields_of_none unversioned untimed
        ((Patch.find?_changes settable patch).trans unnamed)

end Law

end PageBindings

/-- A patch in attribute names and in wire keys, with blanks, a null and keys that no patch sets. -/
def Examples.paneFix : Fields :=
  [("scroll_container", .str " .pane "),
    ("details_content", .arr [.str " .salary ", .str ".jobs-description-content", .str ".salary"]),
    ("ELEMENTS", .obj [("sortDropdown", .str ".sort"), ("about", .str " ")]),
    ("searchBox", .null), ("color", .str "blue"), ("version", .int 9)]

open Examples in
theorem PageBindings.merge_law_pane :
    ∃ merged, (linkedinJobs 0).merge 1 paneFix = .ok merged ∧
      merged.version = 2 ∧
      merged.value? "SCROLL_CONTAINER" = some (.str ".pane") ∧
      merged.detailsContent =
        [".salary", ".jobs-description-content", ".jobs-unified-top-card"] ∧
      Entries.find? "sortDropdown" merged.elements = some ".sort" ∧
      Entries.find? "showResults" merged.elements = some ".filter-show-results-button" ∧
      merged.value? "SEARCH_BOX" = (linkedinJobs 0).value? "SEARCH_BOX" := by
  have keyed : Json.Keyed (.obj paneFix) := by
    refine .obj (by decide) ?_
    simp only [paneFix, List.forall_mem_cons, List.not_mem_nil, IsEmpty.forall_iff, implies_true,
      and_true]
    exact ⟨.str _, .arr (by simp [Json.Keyed.str]),
      .obj (by decide) (by simp [Json.Keyed.str]), .null, .str _, .int _⟩
  obtain ⟨merged, accepted⟩ : ∃ merged, (linkedinJobs 0).merge 1 paneFix = .ok merged := ⟨_, rfl⟩
  have told : Coerce.fields paneFix =
      [("SCROLL_CONTAINER", .str ".pane"),
        ("DETAILS_CONTENT", .ofStrings [".salary", ".jobs-description-content", ".salary"]),
        ("ELEMENTS", .obj [("sortDropdown", .str ".sort")]), ("version", .int 9)] := rfl
  obtain ⟨-, -, version, -, law⟩ := merge_law keyed accepted
  rw [told] at law
  obtain ⟨selectors, same, -, details, -⟩ := law "DETAILS_CONTENT" rfl
  obtain ⟨elements, given, joined⟩ := law "ELEMENTS" rfl
  cases given
  obtain ⟨part, read, sort⟩ := joined "sortDropdown"
  cases read
  have selected : selectors = [".salary", ".jobs-description-content", ".salary"] :=
    Except.ok.inj ((Reading.strings_eq_ok.mpr same).symm.trans (Reading.strings_eq_ok.mpr rfl))
  subst selected
  refine ⟨merged, accepted, version, law "SCROLL_CONTAINER" rfl, details.trans ?_, sort,
    joined "showResults", law "SEARCH_BOX" rfl⟩
  decide

end Gleaner
