import Gleaner.Proofs.Advisor.Fix
import Gleaner.Proofs.Advisor.Discovery
import Gleaner.Proofs.Bindings.Demands

/-!
# Which demands a discovered record meets

An answer that says where the list and its items are is enough for a discovery, and the defaults
see to most of what a record needs. They have none for the details of a site whose answer gives
neither selectors nor a panel, and none for the button of a scroll behaviour that the answer gives.
-/

set_option autoImplicit false

namespace Gleaner

namespace Complete

/-- The raw fields give selectors for details, or a panel that shows them. -/
def GivesDetails (raw : Fields) : Prop :=
  (given? "DETAILS_CONTENT" (Coerce.fields raw)).isSome = true ∨
    (given? "DETAILS_PANEL" (Coerce.fields raw)).isSome = true

/-- The raw fields give the button of the scroll behaviour that they give, if it has one. -/
def GivesButton (raw : Fields) : Prop :=
  (given? "SCROLL_BEHAVIOR" (Coerce.fields raw) = some (.str "load_more_button") →
    (given? "LOAD_MORE_BUTTON" (Coerce.fields raw)).isSome = true) ∧
  (given? "SCROLL_BEHAVIOR" (Coerce.fields raw) = some (.str "paginated") →
    (given? "NEXT_PAGE_BUTTON" (Coerce.fields raw)).isSome = true)

end Complete

namespace PageBindings

/-!
## What a discovered record has
-/

section Completed

variable {now : Float} {raw : Fields} {pattern id : Json} {name : FieldName}

/-- A field without a default is read from the coerced fields. -/
theorem value?_completed (others : ∀ key ∈ name.others, key ∉ wires)
    (other : name.wire ∉ ["urlPattern", "id", "version", "updatedAt"])
    (undefaulted : name.wire ∉ Complete.defaults.map (·.1)) :
    name.value? (completed pattern id now raw) =
      Entries.find? name.wire (Coerce.fields raw) := by
  have wired := wired_completed pattern id now raw
  rw [wired.value?_eq others, find?_completed other, Complete.find?_fill undefaulted]

/-- A coerced text is trimmed, so it says something unless it is empty. -/
theorem coerced_text {key text : String} (plain : Coerce.IsPlain key)
    (found : Entries.find? key (Coerce.fields raw) = some (.str text)) (filled : text ≠ "") :
    Text.isBlankText text = false :=
  Text.isBlankText_of_strip (Coerce.coerced_strip plain found) filled

/-- A required text of a completed record is the coerced one, or nothing. -/
theorem completed_text {text : String}
    (found : name.value? (completed pattern id now raw) =
      Entries.find? name.wire (Coerce.fields raw))
    (reads : Fields.Reads (completed pattern id now raw) name "" Reading.string text) :
    Entries.find? name.wire (Coerce.fields raw) = some (.str text) ∨ text = "" := by
  cases given : Entries.find? name.wire (Coerce.fields raw) with
  | none =>
      rw [Fields.Reads, found, given] at reads
      exact .inr (Except.ok.inj reads).symm
  | some value =>
      obtain rfl := Reading.string_eq_ok.mp ((Fields.Reads.given (found.trans given)).mp reads)
      exact .inl rfl

/-- An optional text of a completed record is the coerced one: a null is not coerced. -/
theorem completed_text? {part : Option String}
    (found : name.value? (completed pattern id now raw) =
      Entries.find? name.wire (Coerce.fields raw))
    (reads : Fields.Reads (completed pattern id now raw) name none (Reading.orNull Reading.string)
      part) :
    Entries.find? name.wire (Coerce.fields raw) = part.map .str := by
  cases given : Entries.find? name.wire (Coerce.fields raw) with
  | none =>
      rw [Fields.Reads, found, given] at reads
      cases reads
      rfl
  | some value =>
      have made := (Fields.Reads.given (found.trans given)).mp reads
      have nonnull := Coerce.given_of_value? (Coerce.settled_of_find? given)
      obtain ⟨text, rfl, read⟩ := Reading.orNull_eq_ok made nonnull
      obtain rfl := Reading.string_eq_ok.mp read
      rfl

/-- A selector of a completed record is named exactly when the raw fields give it. -/
theorem isNamed_completed {part : Option String} (plain : Coerce.IsPlain name.wire)
    (found : name.value? (completed pattern id now raw) =
      Entries.find? name.wire (Coerce.fields raw))
    (reads : Fields.Reads (completed pattern id now raw) name none (Reading.orNull Reading.string)
      part) :
    isNamed part = (Complete.given? name.wire (Coerce.fields raw)).isSome := by
  have given := completed_text? found reads
  rw [Complete.given?, given]
  cases part with
  | none => rfl
  | some text =>
      by_cases empty : text = ""
      · subst empty
        rfl
      · have solid := coerced_text plain given empty
        simp [isNamed, solid, Json.truthy, empty]

/-- A field with a default reads as what it holds after filling, if that is something. -/
theorem completed_given {α : Type} {default part : α} {read : Reading α} {value : Json}
    (others : ∀ key ∈ name.others, key ∉ wires)
    (other : name.wire ∉ ["urlPattern", "id", "version", "updatedAt"])
    (reads : Fields.Reads (completed pattern id now raw) name default read part)
    (given : Complete.given? name.wire (Complete.fill (Coerce.fields raw)) = some value) :
    read value = .ok part ∧ value.isNull = false := by
  obtain ⟨found, truthy⟩ := Complete.given?_eq_some given
  have wired := wired_completed pattern id now raw
  rw [← @find?_completed pattern id now raw _ other, ← wired.value?_eq others] at found
  refine ⟨(Fields.Reads.given found).mp reads, ?_⟩
  cases value <;> first | rfl | cases truthy

end Completed

variable {now : Float} {raw : Fields} {url : String} {b : PageBindings}

/-- Every part that has a default is there; two of the conditions follow from the selector of the
items, and are there if it is. -/
structure Full (b : PageBindings) : Prop where
  pageLoaded : b.states.pageLoaded.isSome = true
  detailsLoaded : b.states.detailsLoaded.isSome = true
  noMoreItems : b.states.noMoreItems.isSome = true
  itemId : b.itemId.isSome = true
  clickBehavior : b.clickBehavior.isSome = true
  scrollBehavior : b.scrollBehavior.isSome = true
  listLoaded : b.listItem ≠ "" → b.states.listLoaded.isSome = true
  listUpdated : b.listItem ≠ "" → b.states.listUpdated.isSome = true

theorem complete_full (made : complete now raw url = .ok b) : b.Full := by
  obtain ⟨pattern, -, reads⟩ := complete_reads made
  have item (named : b.listItem ≠ "") :
      Complete.given? "LIST_ITEM" (Coerce.fields raw) = some (.str b.listItem) := by
    have listed := (completed_text (value?_completed (by decide) (by decide) (by decide))
      reads.listItem).resolve_right named
    rw [Complete.given?, listed, Option.filter_some, Json.truthy, bne_iff_ne.mpr named]
    rfl
  have there {α : Type} {name : FieldName} {part : Option α} {read : Reading α}
      (others : ∀ key ∈ name.others, key ∉ wires)
      (other : name.wire ∉ ["urlPattern", "id", "version", "updatedAt"])
      (reads : Fields.Reads (completed pattern (idOf now raw) now raw) name none
        (Reading.orNull read) part)
      (filled : ∃ value, Complete.given? name.wire (Complete.fill (Coerce.fields raw)) = some value) :
      part.isSome = true := by
    obtain ⟨value, filled⟩ := filled
    obtain ⟨read, nonnull⟩ := completed_given others other reads filled
    obtain ⟨one, rfl, -⟩ := Reading.orNull_eq_ok read nonnull
    rfl
  exact {
    pageLoaded := there (by decide) (by decide) reads.states.pageLoaded
      (@Complete.given?_fill_of_default 3 _ _ rfl _ fun _ _ => ⟨_, rfl, rfl⟩)
    detailsLoaded := there (by decide) (by decide) reads.states.detailsLoaded
      (@Complete.given?_fill_of_default 6 _ _ rfl _ fun _ _ => ⟨_, rfl, rfl⟩)
    noMoreItems := there (by decide) (by decide) reads.states.noMoreItems
      (@Complete.given?_fill_of_default 7 _ _ rfl _ fun _ _ => ⟨_, rfl, rfl⟩)
    itemId := there (by decide) (by decide) reads.itemId
      (@Complete.given?_fill_of_default 8 _ _ rfl _ fun _ _ => ⟨_, rfl, rfl⟩)
    clickBehavior := there (by decide) (by decide) reads.clickBehavior
      (@Complete.given?_fill_of_default 0 _ _ rfl _ fun _ _ => ⟨_, rfl, by split <;> rfl⟩)
    scrollBehavior := there (by decide) (by decide) reads.scrollBehavior
      (@Complete.given?_fill_of_default 1 _ _ rfl _ fun _ _ =>
        ⟨_, rfl, by split <;> [rfl; split <;> rfl]⟩)
    listLoaded := fun named => there (by decide) (by decide) reads.states.listLoaded
      (@Complete.given?_fill_of_default 4 _ _ rfl _ fun _ same =>
        ⟨_, congrArg (Option.map _) ((same _ (by decide)).trans (item named)), rfl⟩)
    listUpdated := fun named => there (by decide) (by decide) reads.states.listUpdated
      (@Complete.given?_fill_of_default 5 _ _ rfl _ fun _ same =>
        ⟨_, congrArg (Option.map _) ((same _ (by decide)).trans (item named)), rfl⟩) }

/-- A discovered record that says where the list and its items are meets every demand but those
on its details and its buttons. -/
theorem complete_grounded (made : complete now raw url = .ok b) (list : b.list ≠ "")
    (listItem : b.listItem ≠ "") : b.Grounded := by
  have full := complete_full made
  obtain ⟨pattern, -, reads⟩ := complete_reads made
  have listGiven := (completed_text (value?_completed (by decide) (by decide) (by decide))
    reads.list).resolve_right list
  have itemGiven := (completed_text (value?_completed (by decide) (by decide) (by decide))
    reads.listItem).resolve_right listItem
  exact {
    list := coerced_text ⟨by decide, by decide⟩ listGiven list
    listItem := coerced_text ⟨by decide, by decide⟩ itemGiven listItem
    itemId := full.itemId
    listLoaded := full.listLoaded listItem
    detailsLoaded := full.detailsLoaded }

/-- The selectors for details are those that the answer gives, or else the panel that it gives, if
it gives one. -/
theorem complete_details (made : complete now raw url = .ok b) :
    Complete.given? "DETAILS_CONTENT" (Coerce.fields raw) = some (.ofStrings b.detailsContent) ∨
      Complete.given? "DETAILS_CONTENT" (Coerce.fields raw) = none ∧
        ((∃ panel, Complete.given? "DETAILS_PANEL" (Coerce.fields raw) = some (.str panel) ∧
            b.detailsContent = [panel]) ∨
          Complete.given? "DETAILS_PANEL" (Coerce.fields raw) = none ∧ b.detailsContent = []) := by
  obtain ⟨pattern, -, reads⟩ := complete_reads made
  obtain ⟨gathered, same, filled⟩ := @Complete.given?_fill 2 _ _ rfl (Coerce.fields raw)
  rw [same "DETAILS_PANEL" (by decide)] at filled
  have read {value : Json}
      (given : Complete.given? "DETAILS_CONTENT" (Complete.fill (Coerce.fields raw)) = some value) :
      value = .ofStrings b.detailsContent :=
    Reading.strings_eq_ok.mp (completed_given (by decide) (by decide) reads.detailsContent given).1
  cases details : Complete.given? "DETAILS_CONTENT" (Coerce.fields raw) with
  | some value =>
      rw [details, Option.some_or] at filled
      exact .inl (congrArg some (read filled))
  | none =>
      refine .inr ⟨rfl, ?_⟩
      rw [details, Option.none_or] at filled
      cases panel : Complete.given? "DETAILS_PANEL" (Coerce.fields raw) with
      | some value =>
          rw [panel] at filled
          have listed : [value] = b.detailsContent.map .str := Json.arr.inj (read filled)
          obtain ⟨text, same, one⟩ := List.map_eq_singleton_iff.mp listed.symm
          exact .inl ⟨text, congrArg some one.symm, same⟩
      | none =>
          refine .inr ⟨rfl, ?_⟩
          rw [panel] at filled
          have found := (wired_completed pattern (idOf now raw) now raw).value?_eq
            (by decide : ∀ key ∈ (⟨"DETAILS_CONTENT", ["details_content"]⟩ : FieldName).others,
              key ∉ wires)
          rw [find?_completed (by decide)] at found
          have own := reads.detailsContent
          cases held : Entries.find? "DETAILS_CONTENT" (Complete.fill (Coerce.fields raw)) with
          | none =>
              rw [Fields.Reads, found, held] at own
              exact (Except.ok.inj own).symm
          | some value =>
              have listed := Reading.strings_eq_ok.mp
                ((Fields.Reads.given (found.trans held)).mp own)
              rw [Complete.given?, held, listed] at filled
              cases same : b.detailsContent with
              | nil => rfl
              | cons first rest =>
                  rw [same] at filled
                  cases filled

theorem complete_selectors (made : complete now raw url = .ok b) :
    ∀ selector ∈ b.detailsContent,
      Text.isBlankText selector = false ∧ Text.strip selector = selector := by
  rcases complete_details made with given | ⟨-, ⟨panel, given, same⟩ | ⟨-, none⟩⟩
  · exact Coerce.coerced_selectors (Complete.given?_eq_some given).1
  · obtain ⟨found, truthy⟩ := Complete.given?_eq_some given
    rw [same, List.forall_mem_singleton]
    exact ⟨coerced_text ⟨by decide, by decide⟩ found (bne_iff_ne.mp truthy),
      Coerce.coerced_strip ⟨by decide, by decide⟩ found⟩
  · rw [none]
    exact List.forall_mem_nil _

/-- A discovered record has selectors for details exactly when the answer gives some, or gives a
panel for them. -/
theorem complete_showsDetails (made : complete now raw url = .ok b) :
    b.showsDetails = true ↔ Complete.GivesDetails raw := by
  have shown : b.showsDetails = true ↔ b.detailsContent ≠ [] := by
    rw [showsDetails, List.any_eq_true]
    refine ⟨fun ⟨selector, among, _⟩ => List.ne_nil_of_mem among, fun some => ?_⟩
    obtain ⟨selector, among⟩ := List.exists_mem_of_ne_nil _ some
    exact ⟨selector, among, by rw [(complete_selectors made selector among).1]; rfl⟩
  rw [shown, Complete.GivesDetails]
  rcases complete_details made with given | ⟨none, ⟨panel, given, same⟩ | ⟨noPanel, same⟩⟩
  · refine ⟨fun _ => .inl (by rw [given]; rfl), fun _ empty => ?_⟩
    obtain ⟨-, truthy⟩ := Complete.given?_eq_some given
    rw [empty] at truthy
    cases truthy
  · exact ⟨fun _ => .inr (by rw [given]; rfl), fun _ => by rw [same]; exact List.cons_ne_nil _ _⟩
  · rw [none, noPanel, same]
    simp

/-- A discovered record names the button that it needs, unless the answer gives a scroll
behaviour without its button. -/
theorem complete_hasButton (made : complete now raw url = .ok b) :
    b.hasButton = true ↔ Complete.GivesButton raw := by
  unfold Complete.GivesButton
  obtain ⟨pattern, -, reads⟩ := complete_reads made
  obtain ⟨gathered, same, filled⟩ := @Complete.given?_fill 1 _ _ rfl (Coerce.fields raw)
  rw [same "NEXT_PAGE_BUTTON" (by decide), same "LOAD_MORE_BUTTON" (by decide)] at filled
  have more := isNamed_completed ⟨by decide, by decide⟩
    (value?_completed (by decide) (by decide) (by decide)) reads.loadMoreButton
  have next := isNamed_completed ⟨by decide, by decide⟩
    (value?_completed (by decide) (by decide) (by decide)) reads.nextPageButton
  have read {value : Json}
      (given : Complete.given? "SCROLL_BEHAVIOR" (Complete.fill (Coerce.fields raw)) = some value) :
      ∃ behavior, b.scrollBehavior = some behavior ∧ value = .str behavior.name := by
    obtain ⟨made, nonnull⟩ := completed_given (by decide) (by decide) reads.scrollBehavior given
    exact proposed_choice ScrollBehavior.name (by decide) made nonnull
  dsimp only at more next
  rw [hasButton, more, next]
  cases scroll : Complete.given? "SCROLL_BEHAVIOR" (Coerce.fields raw) with
  | some value =>
      rw [scroll, Option.some_or] at filled
      obtain ⟨behavior, held, rfl⟩ := read filled
      rw [held]
      cases behavior <;> simp [ScrollBehavior.name]
  | none =>
      rw [scroll, Option.none_or] at filled
      refine ⟨fun _ => ⟨nofun, nofun⟩, fun _ => ?_⟩
      by_cases hasNext : (Complete.given? "NEXT_PAGE_BUTTON" (Coerce.fields raw)).isSome = true
      · rw [if_pos hasNext] at filled
        obtain ⟨behavior, held, named⟩ := read filled
        rw [held]
        cases behavior <;> simp [ScrollBehavior.name, hasNext] at named ⊢
      · rw [if_neg hasNext] at filled
        by_cases hasMore : (Complete.given? "LOAD_MORE_BUTTON" (Coerce.fields raw)).isSome = true
        · rw [if_pos hasMore] at filled
          obtain ⟨behavior, held, named⟩ := read filled
          rw [held]
          cases behavior <;> simp [ScrollBehavior.name, hasMore] at named ⊢
        · rw [if_neg hasMore] at filled
          obtain ⟨behavior, held, named⟩ := read filled
          rw [held]
          cases behavior <;> simp [ScrollBehavior.name] at named ⊢

end PageBindings

end Gleaner
