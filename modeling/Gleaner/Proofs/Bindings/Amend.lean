import Gleaner.Bindings.Merge
import Gleaner.Proofs.Bindings.Record

/-!
# A record with one change

What merging a patch with one key makes of a record: under that key it has what the patch
reads as when it stands alone, written over what was there for filters and elements and put
before it for details selectors. Everything else stays, and the version grows. The merge is
accepted for every record, since no field of a record depends on another.
-/

set_option autoImplicit false

namespace Gleaner.PageBindings

/-- The record with what another one has under a key, and with a new version. -/
def amend (now : Float) (key : String) (b alone : PageBindings) : PageBindings :=
  let pick {α : Type} (wire : String) (new old : α) : α := if key = wire then new else old
  { id := b.id
    urlPattern := b.urlPattern
    version := b.version + 1
    updatedAt := now
    searchBox := pick "SEARCH_BOX" alone.searchBox b.searchBox
    searchSubmit := pick "SEARCH_SUBMIT" alone.searchSubmit b.searchSubmit
    list := pick "LIST" alone.list b.list
    listItem := pick "LIST_ITEM" alone.listItem b.listItem
    listItemActive := pick "LIST_ITEM_ACTIVE" alone.listItemActive b.listItemActive
    detailsPanel := pick "DETAILS_PANEL" alone.detailsPanel b.detailsPanel
    detailsContent :=
      pick "DETAILS_CONTENT" (distinct (alone.detailsContent ++ b.detailsContent)) b.detailsContent
    filters := pick "FILTERS" (Entries.overlay b.filters alone.filters) b.filters
    elements := pick "ELEMENTS" (Entries.overlay b.elements alone.elements) b.elements
    scrollContainer := pick "SCROLL_CONTAINER" alone.scrollContainer b.scrollContainer
    loadMoreButton := pick "LOAD_MORE_BUTTON" alone.loadMoreButton b.loadMoreButton
    nextPageButton := pick "NEXT_PAGE_BUTTON" alone.nextPageButton b.nextPageButton
    states :=
      { pageLoaded := pick "PAGE_LOADED" alone.states.pageLoaded b.states.pageLoaded
        listLoaded := pick "LIST_LOADED" alone.states.listLoaded b.states.listLoaded
        listUpdated := pick "LIST_UPDATED" alone.states.listUpdated b.states.listUpdated
        detailsLoaded := pick "DETAILS_LOADED" alone.states.detailsLoaded b.states.detailsLoaded
        noMoreItems := pick "NO_MORE_ITEMS" alone.states.noMoreItems b.states.noMoreItems
        listEmpty := pick "LIST_EMPTY" alone.states.listEmpty b.states.listEmpty
        loading := pick "LOADING" alone.states.loading b.states.loading }
    itemId := pick "ITEM_ID" alone.itemId b.itemId
    scrollBehavior := pick "SCROLL_BEHAVIOR" alone.scrollBehavior b.scrollBehavior
    clickBehavior := pick "CLICK_BEHAVIOR" alone.clickBehavior b.clickBehavior
    returnToList := pick "RETURN_TO_LIST" alone.returnToList b.returnToList
    closeDetailsButton := pick "CLOSE_DETAILS_BUTTON" alone.closeDetailsButton b.closeDetailsButton }

/-- The fields that a record with one change is read from. -/
def patched (now : Float) (key : String) (value : Json) (b : PageBindings) : Fields :=
  Entries.overlay (Entries.put key (Patch.joined key (b.value? key) value) b.toFields)
    [("version", .int (b.version + 1)), ("updatedAt", .float now)]

section Patched

variable {now : Float} {key : String} {value : Json} {b : PageBindings}

theorem find?_patched (wire : String) :
    Entries.find? wire (b.patched now key value) =
      if "updatedAt" = wire then some (.float now)
      else if "version" = wire then some (.int (b.version + 1))
      else if key = wire then some (Patch.joined key (b.value? key) value)
      else b.value? wire := by
  simp only [patched, Entries.overlay, List.foldl_cons, List.foldl_nil, Entries.find?_put]
  rfl

/-- A name that stands in records under its first spelling, and that a patch may change. -/
def IsPlace (name : FieldName) : Prop :=
  (∀ other ∈ name.others, other ∉ wires) ∧ name.wire ≠ "version" ∧ name.wire ≠ "updatedAt"

instance (name : FieldName) : Decidable (IsPlace name) :=
  inferInstanceAs (Decidable (_ ∧ _))

/-- A place whose value is replaced by that of a patch, not joined with it. -/
def IsReplaced (name : FieldName) : Prop :=
  IsPlace name ∧ name.wire ∉ ["DETAILS_CONTENT", "FILTERS", "ELEMENTS"]

instance (name : FieldName) : Decidable (IsReplaced name) :=
  inferInstanceAs (Decidable (_ ∧ _))

variable (known : key ∈ wires)

include known

theorem wired_patched : Fields.Wired (b.patched now key value) := by
  intro wire unknown
  rw [find?_patched, if_neg, if_neg, if_neg, value?_eq_none unknown]
  · exact fun same => unknown (same ▸ known)
  · exact fun same => unknown (same ▸ by decide)
  · exact fun same => unknown (same ▸ by decide)

variable {α : Type} {name : FieldName} {default kept changed : α} {read : Reading α}

/-- A place of the record with one change: the joined value under the key that changes, and what
was there under any other. -/
theorem reads_patched (place : IsPlace name)
    (own : Fields.Reads b.toFields name default read kept)
    (new : key = name.wire → read (Patch.joined key (b.value? key) value) = .ok changed) :
    Fields.Reads (b.patched now key value) name default read
      (if key = name.wire then changed else kept) := by
  obtain ⟨others, unversioned, untimed⟩ := place
  have wired : Fields.Wired (b.patched now key value) := wired_patched known
  have found := wired.value?_eq others
  rw [find?_patched, if_neg (Ne.symm untimed), if_neg (Ne.symm unversioned)] at found
  by_cases same : key = name.wire
  · rw [if_pos same] at found ⊢
    exact (Fields.Reads.given found).mpr (new same)
  · rw [if_neg same] at found ⊢
    exact own.congr (found.trans (b.wired_toFields.value?_eq others).symm)

theorem reads_kept (place : IsPlace name) (other : key ≠ name.wire)
    (own : Fields.Reads b.toFields name default read kept) :
    Fields.Reads (b.patched now key value) name default read kept := by
  have reads : Fields.Reads (b.patched now key value) name default read
      (if key = name.wire then kept else kept) :=
    reads_patched known place own fun same => absurd same other
  rwa [if_neg other] at reads

omit known in
theorem reads_alone (same : key = name.wire)
    (new : Fields.Reads [(key, value)] name default read changed) : read value = .ok changed := by
  subst same
  refine (Fields.Reads.given ?_).mp new
  rw [FieldName.value?, FieldName.spellings, List.findSome?_cons, Entries.find?, if_pos rfl]

theorem reads_replaced (replaced : IsReplaced name)
    (own : Fields.Reads b.toFields name default read kept)
    (new : Fields.Reads [(key, value)] name default read changed) :
    Fields.Reads (b.patched now key value) name default read
      (if key = name.wire then changed else kept) := by
  obtain ⟨place, single⟩ := replaced
  refine reads_patched known place own fun same => ?_
  have joined : Patch.joined key (b.value? key) value = value := by
    subst same
    simp only [List.mem_cons, not_or] at single
    simp [Patch.joined, single]
  rw [joined]
  exact reads_alone same new

omit known

theorem reads_details {texts : List String} (same : key = "DETAILS_CONTENT")
    (made : Reading.list Reading.string value = .ok texts) :
    Reading.list Reading.string (Patch.joined key (b.value? key) value) =
      .ok (distinct (texts ++ b.detailsContent)) := by
  subst same
  have asked (texts : List String) : (texts.map Json.str).filterMap Json.asString? = texts := by
    rw [List.filterMap_map]
    exact List.filterMap_some
  rw [value?_details, Reading.strings_eq_ok.mp made]
  show Reading.list Reading.string (.ofStrings (distinct
    ((texts.map Json.str).filterMap Json.asString? ++
      (b.detailsContent.map Json.str).filterMap Json.asString?))) = _
  rw [asked, asked]
  exact Reading.strings_eq_ok.mpr rfl

theorem reads_filters {filters : Entries FilterBinding} (same : key = "FILTERS")
    (made : Reading.entries FilterBinding.read value = .ok filters) :
    Reading.entries FilterBinding.read (Patch.joined key (b.value? key) value) =
      .ok (Entries.overlay b.filters filters) := by
  subst same
  obtain ⟨fields, rfl, alike⟩ := Reading.entries_eq_ok.mp made
  rw [value?_filters]
  exact Reading.entries_eq_ok.mpr
    ⟨_, rfl, .overlay (.mapValues FilterBinding.read_toJson _) alike⟩

theorem reads_elements {elements : Entries String} (same : key = "ELEMENTS")
    (made : Reading.entries Reading.string value = .ok elements) :
    Reading.entries Reading.string (Patch.joined key (b.value? key) value) =
      .ok (Entries.overlay b.elements elements) := by
  subst same
  obtain ⟨fields, rfl, alike⟩ := Reading.entries_eq_ok.mp made
  rw [value?_elements]
  exact Reading.entries_eq_ok.mpr
    ⟨_, rfl, .overlay (.mapValues (fun _ => Reading.string_eq_ok.mpr rfl) _) alike⟩

/-- The fields with one change read as the record with one change. -/
theorem readsFrom_patched {earlier : Float} {alone : PageBindings} (known : key ∈ wires)
    (settable : BindingKey.isMeta key = false) (new : alone.ReadsFrom earlier [(key, value)]) :
    (b.amend now key alone).ReadsFrom now (b.patched now key value) := by
  have own := b.readsFrom_toFields now
  have wired : Fields.Wired (b.patched now key value) := wired_patched known
  have notMeta (wire : String) (isMeta : BindingKey.isMeta wire = true) : key ≠ wire :=
    fun same => Bool.false_ne_true ((same ▸ settable).symm.trans isMeta)
  exact {
    id := reads_kept known (by decide) (notMeta _ rfl) own.id
    urlPattern := reads_kept known (by decide) (notMeta _ rfl) own.urlPattern
    version := (Fields.Reads.given ((wired.value?_eq (by decide)).trans (find?_patched _))).mpr rfl
    updatedAt := (Fields.Reads.given ((wired.value?_eq (by decide)).trans (find?_patched _))).mpr rfl
    searchBox := reads_replaced known (by decide) own.searchBox new.searchBox
    searchSubmit := reads_replaced known (by decide) own.searchSubmit new.searchSubmit
    list := reads_replaced known (by decide) own.list new.list
    listItem := reads_replaced known (by decide) own.listItem new.listItem
    listItemActive := reads_replaced known (by decide) own.listItemActive new.listItemActive
    detailsPanel := reads_replaced known (by decide) own.detailsPanel new.detailsPanel
    detailsContent := reads_patched known (by decide) own.detailsContent fun same =>
      reads_details same (reads_alone same new.detailsContent)
    filters := reads_patched known (by decide) own.filters fun same =>
      reads_filters same (reads_alone same new.filters)
    elements := reads_patched known (by decide) own.elements fun same =>
      reads_elements same (reads_alone same new.elements)
    scrollContainer := reads_replaced known (by decide) own.scrollContainer new.scrollContainer
    loadMoreButton := reads_replaced known (by decide) own.loadMoreButton new.loadMoreButton
    nextPageButton := reads_replaced known (by decide) own.nextPageButton new.nextPageButton
    states :=
      { pageLoaded := reads_replaced known (by decide) own.states.pageLoaded new.states.pageLoaded
        listLoaded := reads_replaced known (by decide) own.states.listLoaded new.states.listLoaded
        listUpdated :=
          reads_replaced known (by decide) own.states.listUpdated new.states.listUpdated
        detailsLoaded :=
          reads_replaced known (by decide) own.states.detailsLoaded new.states.detailsLoaded
        noMoreItems :=
          reads_replaced known (by decide) own.states.noMoreItems new.states.noMoreItems
        listEmpty := reads_replaced known (by decide) own.states.listEmpty new.states.listEmpty
        loading := reads_replaced known (by decide) own.states.loading new.states.loading }
    itemId := reads_replaced known (by decide) own.itemId new.itemId
    scrollBehavior := reads_replaced known (by decide) own.scrollBehavior new.scrollBehavior
    clickBehavior := reads_replaced known (by decide) own.clickBehavior new.clickBehavior
    returnToList := reads_replaced known (by decide) own.returnToList new.returnToList
    closeDetailsButton :=
      reads_replaced known (by decide) own.closeDetailsButton new.closeDetailsButton }

/-- A patch that changes one key is accepted whenever its value can be read on its own, whatever
the record is, and the record that it makes is the amended one. -/
theorem merge_of_change {patch : Fields} {earlier : Float} {alone : PageBindings}
    (changes : Patch.changes patch = [(key, value)]) (known : key ∈ wires)
    (settable : BindingKey.isMeta key = false)
    (made : ofFieldsOrFault earlier [(key, value)] = .ok alone) :
    b.merge now patch = .ok (b.amend now key alone) := by
  have merged : b.merge now patch = ofFieldsOrFault now (b.patched now key value) := by
    rw [merge, changes]
    rfl
  rw [merged, ofFieldsOrFault_eq_ok]
  exact readsFrom_patched known settable (ofFieldsOrFault_eq_ok.mp made)

/-- A patch that changes nothing makes a new version of the same bindings. -/
theorem merge_of_no_change {patch : Fields} (unchanged : Patch.changes patch = []) :
    b.merge now patch = .ok { b with version := b.version + 1, updatedAt := now } := by
  have written : Entries.overlay b.toFields
      [("version", .int (b.version + 1)), ("updatedAt", .float now)] =
        toFields { b with version := b.version + 1, updatedAt := now } := rfl
  rw [merge, unchanged, List.foldl_nil, written]
  exact ofFieldsOrFault_eq_ok.mpr (readsFrom_toFields now _)

end Patched

/-!
## What no patch changes
-/

section Accepted

variable {now : Float} {b merged : PageBindings}

/-- The fields with each change joined to what is there. -/
def joinAll (changes fields : Fields) : Fields :=
  changes.foldl (fun fields (key, value) =>
    Entries.put key (Patch.joined key (Entries.find? key fields) value) fields) fields

theorem find?_joinAll {wire : String} {changes : Fields}
    (others : ∀ change ∈ changes, change.1 ≠ wire) (fields : Fields) :
    Entries.find? wire (joinAll changes fields) = Entries.find? wire fields := by
  induction changes generalizing fields with
  | nil => rfl
  | cons change rest ih =>
      obtain ⟨differs, others⟩ := List.forall_mem_cons.mp others
      rw [joinAll, List.foldl_cons]
      exact (ih others _).trans (by rw [Entries.find?_put, if_neg differs])

theorem reads_first {α : Type} {fields : Fields} {name : FieldName} {default result : α}
    {read : Reading α} {value : Json} (reads : fields.Reads name default read result)
    (found : Entries.find? name.wire fields = some value) : read value = .ok result := by
  refine (Fields.Reads.given ?_).mp reads
  rw [FieldName.value?, FieldName.spellings, List.findSome?_cons, found]

/-- A patch that is accepted makes the next version of the same record, whatever it names. -/
theorem merge_identity {patch : Fields} (accepted : b.merge now patch = .ok merged) :
    merged.version = b.version + 1 ∧ merged.id = b.id ∧ merged.urlPattern = b.urlPattern := by
  have reads : merged.ReadsFrom now (Entries.overlay (joinAll (Patch.changes patch) b.toFields)
      [("version", .int (b.version + 1)), ("updatedAt", .float now)]) :=
    ofFieldsOrFault_eq_ok.mp accepted
  have settable : ∀ change ∈ Patch.changes patch, BindingKey.isMeta change.1 = false :=
    fun change found => by simpa using (List.mem_filter.mp found).2
  have kept {wire : String} (isMeta : BindingKey.isMeta wire = true) :
      Entries.find? wire (joinAll (Patch.changes patch) b.toFields) = b.value? wire := by
    refine find?_joinAll (fun change found same => ?_) _
    rw [← same, settable change found] at isMeta
    exact Bool.false_ne_true isMeta
  have version : Reading.int (.int (b.version + 1)) = .ok merged.version :=
    reads_first reads.version (by simp [Entries.overlay, Entries.find?_put])
  have id : Reading.string (.str b.id) = .ok merged.id :=
    reads_first reads.id (by
      simp only [Entries.overlay, List.foldl_cons, List.foldl_nil, Entries.find?_put]
      exact kept rfl)
  have urlPattern : Reading.string (.str b.urlPattern) = .ok merged.urlPattern :=
    reads_first reads.urlPattern (by
      simp only [Entries.overlay, List.foldl_cons, List.foldl_nil, Entries.find?_put]
      exact kept rfl)
  exact ⟨(Except.ok.inj version).symm, (Except.ok.inj id).symm, (Except.ok.inj urlPattern).symm⟩

end Accepted

/-!
## What the amended record is written as
-/

section Written

variable {now : Float} {key wire : String} {b alone : PageBindings}

/-- Under every other key the amended record is as it was. -/
theorem value?_amend (differs : key ≠ wire) (unversioned : wire ≠ "version")
    (untimed : wire ≠ "updatedAt") : (b.amend now key alone).value? wire = b.value? wire := by
  rw [value?_eq_filter, value?_eq_filter]
  congr 1
  refine Entries.find?_congr ?_
  simp only [allFields, amend, List.forall₂_cons, List.Forall₂.nil, and_true, true_and]
  have kept {α : Type} (place : String) (new old : α) (same : place = wire) :
      (if key = place then new else old) = old :=
    if_neg fun changed => differs (changed.trans same)
  refine ⟨fun _ => trivial, fun _ => trivial, fun same => absurd same.symm unversioned,
    fun same => absurd same.symm untimed, ?_⟩
  and_intros <;> intro same <;> simp only [kept _ _ _ same]

/-- Under a key whose value is replaced it has what the other record has. -/
theorem value?_amend_self (settable : BindingKey.isMeta key = false)
    (single : key ∉ ["DETAILS_CONTENT", "FILTERS", "ELEMENTS"]) :
    (b.amend now key alone).value? key = alone.value? key := by
  rw [value?_eq_filter, value?_eq_filter]
  congr 1
  refine Entries.find?_congr ?_
  simp only [allFields, amend, List.forall₂_cons, List.Forall₂.nil, and_true, true_and]
  have taken {α : Type} (place : String) (new old : α) (same : place = key) :
      (if key = place then new else old) = new := if_pos same.symm
  have notMeta (wire : String) (isMeta : BindingKey.isMeta wire = true) : wire ≠ key :=
    fun same => Bool.false_ne_true ((same ▸ settable).symm.trans isMeta)
  have notJoined (wire : String) (joined : wire ∈ ["DETAILS_CONTENT", "FILTERS", "ELEMENTS"]) :
      wire ≠ key := fun same => single (same ▸ joined)
  refine ⟨(absurd · (notMeta "id" rfl)), (absurd · (notMeta "urlPattern" rfl)),
    (absurd · (notMeta "version" rfl)), (absurd · (notMeta "updatedAt" rfl)), ?_⟩
  and_intros <;> intro same <;> first
    | exact absurd same (notJoined _ (by decide))
    | simp only [taken _ _ _ same]

/-- A new version of the same bindings is written like the old one. -/
theorem value?_stamped (unversioned : wire ≠ "version") (untimed : wire ≠ "updatedAt") :
    value? wire { b with version := b.version + 1, updatedAt := now } = b.value? wire := by
  show Entries.find? wire (Entries.overlay b.toFields
    [("version", .int (b.version + 1)), ("updatedAt", .float now)]) = _
  simp only [Entries.overlay, List.foldl_cons, List.foldl_nil, Entries.find?_put,
    if_neg unversioned.symm, if_neg untimed.symm]
  rfl

theorem value?_of_part {part value : Json}
    (found : Entries.find? key b.allFields = some part) (same : part = value)
    (given : value.isNull = false) : b.value? key = some value := by
  rw [value?_eq_filter, found, same, Option.filter_some, given]
  rfl

end Written

end Gleaner.PageBindings
