import Gleaner.Proofs.Bindings.Merging

/-!
# A patch that is replayed

A patch may be merged twice, by a second run or by a handler that answers the same again. The
second merge is accepted whenever the first one was, and it changes nothing but the version and
the time: a value that takes the place of another takes it once more, a named entry is written
over itself, and selectors that come first are there already.
-/

set_option autoImplicit false

namespace Gleaner

/-!
## Joining a second time
-/

/-- Entries that are read from written ones are read again when the same is written over them. -/
theorem Entries.read_again {α : Type} {read : Reading α} {write : α → Json} {given base : Fields}
    {parts : Entries α} (written : ∀ part, read (write part) = .ok part)
    (made : Reading.entries read (.obj (overlay base given)) = .ok parts) :
    Reading.entries read (.obj (overlay (parts.mapValues write) given)) = .ok parts := by
  obtain ⟨_, same, alike⟩ := Reading.entries_eq_ok.mp made
  cases same
  -- What is written now reads as what was read then, value by value, also below the overlay.
  have again : Alike (fun now before => read now = read before)
      (overlay (parts.mapValues write) given) (overlay (overlay base given) given) := by
    refine .overlay ?_ (List.forall₂_same.mpr fun _ _ => ⟨rfl, rfl⟩)
    refine List.forall₂_map_left_iff.mpr (alike.flip.imp fun part value read => ?_)
    exact ⟨read.1.symm, (written part.2).trans read.2.symm⟩
  rw [overlay_overlay] at again
  exact Reading.entries_eq_ok.mpr
    ⟨_, rfl, again.trans alike fun _ _ _ same made => same.trans made⟩

theorem eraseDups_of_nodup {texts : List String} (once : texts.Nodup) : texts.eraseDups = texts := by
  induction texts with
  | nil => rfl
  | cons text rest ih =>
      obtain ⟨fresh, others⟩ := List.nodup_cons.mp once
      have kept : rest.filter (fun other => !other == text) = rest :=
        List.filter_eq_self.mpr fun other among => by
          have differs : other ≠ text := fun same => fresh (same ▸ among)
          simpa using differs
      rw [List.eraseDups_cons, kept, ih others]

/-- Texts that are put before others leave these as they are if they are told once and begin with
them. -/
theorem distinct_append_eq_self {first second : List String} :
    distinct (first ++ second) = second ↔ first.eraseDups <+: second ∧ second.Nodup := by
  rw [distinct_append]
  constructor
  · intro same
    refine ⟨⟨_, same⟩, ?_⟩
    rw [← same, ← distinct_append]
    exact nodup_distinct _
  · rintro ⟨⟨rest, rfl⟩, once⟩
    obtain ⟨-, restOnce, apart⟩ := List.nodup_append.mp once
    have gone : first.eraseDups.filter (· ∉ first) = [] := by simp
    have kept : rest.filter (· ∉ first) = rest := by
      refine List.filter_eq_self.mpr fun text among => decide_eq_true fun known => ?_
      exact apart text (List.mem_eraseDups.mpr known) text among rfl
    rw [List.filter_append, gone, kept, List.nil_append, eraseDups_of_nodup restOnce]

/-- Texts that are put before others a second time are told already. -/
theorem distinct_distinct (first second : List String) :
    distinct (first ++ distinct (first ++ second)) = distinct (first ++ second) :=
  distinct_append_eq_self.mpr ⟨⟨_, (distinct_append first second).symm⟩, nodup_distinct _⟩

namespace PageBindings

variable {now later : Float} {b merged : PageBindings} {patch : Fields}

section Places

variable {α : Type} {name : FieldName} {default part : α} {read : Reading α}

/-- A place reads as it did, if what the patch has for it reads so once more. -/
theorem reads_replayed (place : IsPlace name)
    (reads : Fields.Reads (mergedFields now b patch) name default read part)
    (own : Fields.Reads merged.toFields name default read part)
    (again : ∀ value, Entries.find? name.wire (Patch.changes patch) = some value →
      read (Patch.joined name.wire (b.value? name.wire) value) = .ok part →
      read (Patch.joined name.wire (merged.value? name.wire) value) = .ok part) :
    Fields.Reads (mergedFields later merged patch) name default read part := by
  obtain ⟨others, unversioned, untimed⟩ := place
  cases named : Entries.find? name.wire (Patch.changes patch) with
  | none =>
      refine own.congr ?_
      rw [wired_mergedFields.value?_eq others, merged.wired_toFields.value?_eq others]
      exact find?_mergedFields_of_none unversioned untimed named
  | some value =>
      have held (time : Float) (record : PageBindings) :
          Entries.find? name.wire (mergedFields time record patch) =
            some (Patch.joined name.wire (record.value? name.wire) value) :=
        find?_mergedFields_of_some unversioned untimed named
      have before := held now b
      have after := held later merged
      refine (Fields.Reads.given ((wired_mergedFields.value?_eq others).trans after)).mpr ?_
      exact again value named
        ((Fields.Reads.given ((wired_mergedFields.value?_eq others).trans before)).mp reads)

/-- What takes the place of a value does so again. -/
theorem reads_replayed_replaced (replaced : IsReplaced name)
    (reads : Fields.Reads (mergedFields now b patch) name default read part)
    (own : Fields.Reads merged.toFields name default read part) :
    Fields.Reads (mergedFields later merged patch) name default read part := by
  obtain ⟨place, single⟩ := replaced
  refine reads_replayed place reads own fun value _ made => ?_
  have alone (old : Option Json) : Patch.joined name.wire old value = value := by
    simp only [List.mem_cons, not_or] at single
    simp [Patch.joined, single]
  rw [alone] at made ⊢
  exact made

end Places

/-- The fields of the second merge read as the record that the first one made, in its next version. -/
theorem readsFrom_replayed (reads : merged.ReadsFrom now (mergedFields now b patch)) :
    ReadsFrom later (mergedFields later merged patch)
      { merged with version := merged.version + 1, updatedAt := later } := by
  have own := merged.readsFrom_toFields later
  have stamped {name : FieldName} {value : Json} (others : ∀ other ∈ name.others, other ∉ wires)
      (found : Entries.find? name.wire (mergedFields later merged patch) = some value) :
      name.value? (mergedFields later merged patch) = some value :=
    (wired_mergedFields.value?_eq others).trans found
  have version : Entries.find? "version" (mergedFields later merged patch) =
      some (.int (merged.version + 1)) := by
    simp [mergedFields, Entries.overlay, Entries.find?_put]
  have updatedAt : Entries.find? "updatedAt" (mergedFields later merged patch) =
      some (.float later) := by
    simp [mergedFields, Entries.overlay, Entries.find?_put]
  have changed {key : String} {value : Json}
      (named : Entries.find? key (Patch.changes patch) = some value) :
      ∃ raw, Coerce.value? key raw = some value := by
    obtain ⟨field, _, _, coerced⟩ := Coerce.find?_fields
      (Entries.find?_of_mem (Coerce.nodup_fields patch)
        (List.mem_of_mem_filter (Entries.mem_of_find? named)))
    exact ⟨field.2, coerced⟩
  exact {
    id := reads_replayed_replaced (by decide) reads.id own.id
    urlPattern := reads_replayed_replaced (by decide) reads.urlPattern own.urlPattern
    version := (Fields.Reads.given (stamped (by decide) version)).mpr rfl
    updatedAt := (Fields.Reads.given (stamped (by decide) updatedAt)).mpr rfl
    searchBox := reads_replayed_replaced (by decide) reads.searchBox own.searchBox
    searchSubmit := reads_replayed_replaced (by decide) reads.searchSubmit own.searchSubmit
    list := reads_replayed_replaced (by decide) reads.list own.list
    listItem := reads_replayed_replaced (by decide) reads.listItem own.listItem
    listItemActive := reads_replayed_replaced (by decide) reads.listItemActive own.listItemActive
    detailsPanel := reads_replayed_replaced (by decide) reads.detailsPanel own.detailsPanel
    detailsContent := reads_replayed (by decide) reads.detailsContent own.detailsContent
      fun value named made => by
        obtain ⟨raw, coerced⟩ := changed named
        obtain ⟨selectors, rfl⟩ := Coerce.details_texts coerced
        have listed : Reading.list Reading.string (.ofStrings selectors) = .ok selectors :=
          Reading.strings_eq_ok.mpr rfl
        have taken := Except.ok.inj (made.symm.trans (reads_details rfl listed))
        rw [reads_details rfl listed, taken, distinct_distinct]
    filters := reads_replayed (by decide) reads.filters own.filters
      fun value named made => by
        obtain ⟨raw, coerced⟩ := changed named
        obtain ⟨given, rfl⟩ := Coerce.filters_named coerced
        rw [value?_of_part rfl rfl rfl] at made ⊢
        exact Entries.read_again FilterBinding.read_toJson made
    elements := reads_replayed (by decide) reads.elements own.elements
      fun value named made => by
        obtain ⟨raw, coerced⟩ := changed named
        obtain ⟨given, rfl⟩ := Coerce.elements_named coerced
        rw [value?_of_part rfl rfl rfl] at made ⊢
        exact Entries.read_again (fun _ => Reading.string_eq_ok.mpr rfl) made
    scrollContainer :=
      reads_replayed_replaced (by decide) reads.scrollContainer own.scrollContainer
    loadMoreButton := reads_replayed_replaced (by decide) reads.loadMoreButton own.loadMoreButton
    nextPageButton := reads_replayed_replaced (by decide) reads.nextPageButton own.nextPageButton
    states :=
      { pageLoaded :=
          reads_replayed_replaced (by decide) reads.states.pageLoaded own.states.pageLoaded
        listLoaded :=
          reads_replayed_replaced (by decide) reads.states.listLoaded own.states.listLoaded
        listUpdated :=
          reads_replayed_replaced (by decide) reads.states.listUpdated own.states.listUpdated
        detailsLoaded :=
          reads_replayed_replaced (by decide) reads.states.detailsLoaded own.states.detailsLoaded
        noMoreItems :=
          reads_replayed_replaced (by decide) reads.states.noMoreItems own.states.noMoreItems
        listEmpty := reads_replayed_replaced (by decide) reads.states.listEmpty own.states.listEmpty
        loading := reads_replayed_replaced (by decide) reads.states.loading own.states.loading }
    itemId := reads_replayed_replaced (by decide) reads.itemId own.itemId
    scrollBehavior := reads_replayed_replaced (by decide) reads.scrollBehavior own.scrollBehavior
    clickBehavior := reads_replayed_replaced (by decide) reads.clickBehavior own.clickBehavior
    returnToList := reads_replayed_replaced (by decide) reads.returnToList own.returnToList
    closeDetailsButton :=
      reads_replayed_replaced (by decide) reads.closeDetailsButton own.closeDetailsButton }

/-- Replaying a patch that was accepted is harmless: it is accepted again, and the record that it
makes is the one it made before, in the next version and at the present time. -/
theorem merge_replayed (accepted : b.merge now patch = .ok merged) :
    merged.merge later patch =
      .ok { merged with version := merged.version + 1, updatedAt := later } :=
  ofFieldsOrFault_eq_ok.mpr (readsFrom_replayed (ofFieldsOrFault_eq_ok.mp accepted))

open Examples in
theorem merge_replayed_pane :
    ∃ merged again, (linkedinJobs 0).merge 1 paneFix = .ok merged ∧
      merged.merge 2 paneFix = .ok again ∧ merged.version = 2 ∧ again.version = 3 ∧
      again.detailsContent = merged.detailsContent ∧ again.elements = merged.elements ∧
      ".salary" ∈ again.detailsContent := by
  obtain ⟨merged, accepted⟩ : ∃ merged, (linkedinJobs 0).merge 1 paneFix = .ok merged := ⟨_, rfl⟩
  have version : merged.version = 2 := (merge_identity accepted).1
  refine ⟨merged, _, accepted, merge_replayed accepted, version, ?_, rfl, rfl, ?_⟩
  · show merged.version + 1 = 3
    rw [version]
    rfl
  · cases accepted
    decide

end PageBindings

end Gleaner
