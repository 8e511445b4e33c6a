import Gleaner.Bindings.Validate
import Gleaner.Proofs.Bindings.Amend

/-!
# What a record needs

A record may be used when it meets every demand: it says where the list and its items are, how an
item is told from the others, and when the list and the details are there; it names selectors for
the details, and the button that its scroll behaviour needs.
-/

set_option autoImplicit false

namespace Gleaner

namespace PageBindings

/-- There are selectors for the details of an item. -/
def showsDetails (b : PageBindings) : Bool :=
  b.detailsContent.any fun selector => !Text.isBlankText selector

def isNamed (selector : Option String) : Bool :=
  selector.any fun selector => !Text.isBlankText selector

/-- The button that the scroll behaviour needs is named, if it needs one. -/
def hasButton (b : PageBindings) : Bool :=
  match b.scrollBehavior with
  | some .loadMoreButton => isNamed b.loadMoreButton
  | some .paginated => isNamed b.nextPageButton
  | _ => true

/-- The demands on a record that concern neither its details nor its buttons. -/
structure Grounded (b : PageBindings) : Prop where
  list : Text.isBlankText b.list = false
  listItem : Text.isBlankText b.listItem = false
  itemId : b.itemId.isSome = true
  listLoaded : b.states.listLoaded.isSome = true
  detailsLoaded : b.states.detailsLoaded.isSome = true

theorem value?_optional {α : Type} {encode : α → Json} {key : String} {part : Option α} {value : Json}
    {b : PageBindings} (found : Entries.find? key b.allFields = some value)
    (written : value = (part.map encode).getD .null) (given : ∀ one, (encode one).isNull = false) :
    b.value? key = part.map encode := by
  subst written
  cases part with
  | some one => exact value?_of_part found rfl (given one)
  | none =>
      rw [value?_eq_filter, found]
      rfl

end PageBindings

namespace BindingReport

theorem isFilled_map (selector : Option String) :
    isFilled (selector.map .str) = PageBindings.isNamed selector := by
  cases selector <;> rfl

theorem isGiven_map {α : Type} {encode : α → Json} (given : ∀ one, (encode one).truthy = true)
    (part : Option α) : isGiven (part.map encode) = part.isSome := by
  cases part with
  | none => rfl
  | some one => exact given one

theorem isValid_ofFields {fields : Fields} :
    (ofFields fields).isValid = true ↔ ∀ demand ∈ demands fields, demand.1 = true := by
  show (((demands fields).filter fun demand => !demand.1).map (·.2)).isEmpty = true ↔ _
  simp

theorem mem_errors {fields : Fields} {text : String} :
    text ∈ (ofFields fields).errors ↔ (false, text) ∈ demands fields := by
  show text ∈ ((demands fields).filter fun demand => !demand.1).map (·.2) ↔ _
  simp

end BindingReport

theorem StateCondition.truthy_toJson (condition : StateCondition) :
    condition.toJson.truthy = true := by
  cases condition <;> rfl

namespace PageBindings

/-!
## A report in terms of the record
-/

/-- What is demanded of the fields that a record is written as. -/
theorem demands_toFields (b : PageBindings) : BindingReport.demands b.toFields =
    [(!Text.isBlankText b.list, "LIST selector is required"),
      (!Text.isBlankText b.listItem, "LIST_ITEM selector is required"),
      (b.showsDetails, "DETAILS_CONTENT selectors are required"),
      (b.itemId.isSome, "ITEM_ID extractor is required"),
      (b.states.listLoaded.isSome, "LIST_LOADED condition is required"),
      (b.states.detailsLoaded.isSome, "DETAILS_LOADED condition is required"),
      (b.scrollBehavior ≠ some .loadMoreButton || isNamed b.loadMoreButton,
        "LOAD_MORE_BUTTON required when SCROLL_BEHAVIOR is load_more_button"),
      (b.scrollBehavior ≠ some .paginated || isNamed b.nextPageButton,
        "NEXT_PAGE_BUTTON required when SCROLL_BEHAVIOR is paginated")] := by
  have list : Entries.find? "LIST" b.toFields = some (.str b.list) := value?_of_part rfl rfl rfl
  have listItem : Entries.find? "LIST_ITEM" b.toFields = some (.str b.listItem) :=
    value?_of_part rfl rfl rfl
  have details : Entries.find? "DETAILS_CONTENT" b.toFields = some (.ofStrings b.detailsContent) :=
    value?_of_part rfl rfl rfl
  have itemId : Entries.find? "ITEM_ID" b.toFields = b.itemId.map ItemIdRule.toJson :=
    value?_optional rfl rfl fun _ => rfl
  have listLoaded : Entries.find? "LIST_LOADED" b.toFields =
      b.states.listLoaded.map StateCondition.toJson :=
    value?_optional rfl (by cases b.states.listLoaded <;> rfl) StateCondition.isNull_toJson
  have detailsLoaded : Entries.find? "DETAILS_LOADED" b.toFields =
      b.states.detailsLoaded.map StateCondition.toJson :=
    value?_optional rfl (by cases b.states.detailsLoaded <;> rfl) StateCondition.isNull_toJson
  have scroll : Entries.find? "SCROLL_BEHAVIOR" b.toFields =
      b.scrollBehavior.map fun behavior => .str behavior.name :=
    value?_optional rfl (by cases b.scrollBehavior <;> rfl) fun _ => rfl
  have more : Entries.find? "LOAD_MORE_BUTTON" b.toFields = b.loadMoreButton.map .str :=
    value?_optional rfl (by cases b.loadMoreButton <;> rfl) fun _ => rfl
  have next : Entries.find? "NEXT_PAGE_BUTTON" b.toFields = b.nextPageButton.map .str :=
    value?_optional rfl (by cases b.nextPageButton <;> rfl) fun _ => rfl
  have rules (rule : ItemIdRule) : rule.toJson.truthy = true := rfl
  have shown : ((b.detailsContent.map Json.str).any fun item => BindingReport.isFilled (some item)) =
      b.showsDetails := List.any_map
  simp only [BindingReport.demands, list, listItem, details, itemId, listLoaded, detailsLoaded, scroll,
    more, next, BindingReport.isFilled_map, BindingReport.isGiven_map rules,
    BindingReport.isGiven_map StateCondition.truthy_toJson]
  rw [← shown]
  rcases b.scrollBehavior with _ | _ | _ | _ | _ <;> rfl

/-- What is recommended for the fields that a record is written as. -/
theorem recommendations_toFields (b : PageBindings) : BindingReport.recommendations b.toFields =
    [(b.scrollBehavior.isSome, "SCROLL_BEHAVIOR not set, assuming infinite scroll"),
      (b.clickBehavior ≠ some .navigates || b.returnToList.isSome,
        "RETURN_TO_LIST recommended when CLICK_BEHAVIOR is navigates"),
      (b.states.noMoreItems.isSome, "NO_MORE_ITEMS condition not set, end of list will be inferred"),
      (b.states.pageLoaded.isSome, "PAGE_LOADED condition not set")] := by
  have scroll : Entries.find? "SCROLL_BEHAVIOR" b.toFields =
      b.scrollBehavior.map fun behavior => .str behavior.name :=
    value?_optional rfl (by cases b.scrollBehavior <;> rfl) fun _ => rfl
  have click : Entries.find? "CLICK_BEHAVIOR" b.toFields =
      b.clickBehavior.map fun behavior => .str behavior.name :=
    value?_optional rfl (by cases b.clickBehavior <;> rfl) fun _ => rfl
  have back : Entries.find? "RETURN_TO_LIST" b.toFields =
      b.returnToList.map fun way => .str way.name :=
    value?_optional rfl (by cases b.returnToList <;> rfl) fun _ => rfl
  have noMoreItems : Entries.find? "NO_MORE_ITEMS" b.toFields =
      b.states.noMoreItems.map StateCondition.toJson :=
    value?_optional rfl (by cases b.states.noMoreItems <;> rfl) StateCondition.isNull_toJson
  have pageLoaded : Entries.find? "PAGE_LOADED" b.toFields =
      b.states.pageLoaded.map StateCondition.toJson :=
    value?_optional rfl (by cases b.states.pageLoaded <;> rfl) StateCondition.isNull_toJson
  have behaviors (behavior : ScrollBehavior) : (Json.str behavior.name).truthy = true := by
    cases behavior <;> rfl
  have ways (way : ReturnToList) : (Json.str way.name).truthy = true := by cases way <;> rfl
  simp only [BindingReport.recommendations, scroll, click, back, noMoreItems, pageLoaded,
    BindingReport.isGiven_map behaviors, BindingReport.isGiven_map ways,
    BindingReport.isGiven_map StateCondition.truthy_toJson]
  rcases b.clickBehavior with _ | _ | _ | _ | _ <;> rfl

theorem isValid_report {b : PageBindings} :
    b.report.isValid = true ↔ b.Grounded ∧ b.showsDetails = true ∧ b.hasButton = true := by
  have button : ((b.scrollBehavior ≠ some .loadMoreButton || isNamed b.loadMoreButton) = true ∧
      (b.scrollBehavior ≠ some .paginated || isNamed b.nextPageButton) = true) ↔
        b.hasButton = true := by
    unfold hasButton
    rcases b.scrollBehavior with _ | _ | _ | _ | _ <;> simp
  rw [report, BindingReport.isValid_ofFields, demands_toFields, ← button]
  simp only [List.forall_mem_cons, List.not_mem_nil, IsEmpty.forall_iff, implies_true, and_true,
    Bool.not_eq_true']
  constructor
  · rintro ⟨list, listItem, details, itemId, listLoaded, detailsLoaded, buttons⟩
    exact ⟨⟨list, listItem, itemId, listLoaded, detailsLoaded⟩, details, buttons⟩
  · rintro ⟨grounded, details, buttons⟩
    exact ⟨grounded.list, grounded.listItem, details, grounded.itemId, grounded.listLoaded,
      grounded.detailsLoaded, buttons⟩

end PageBindings

end Gleaner
