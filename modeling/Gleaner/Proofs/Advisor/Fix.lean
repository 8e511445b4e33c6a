import Gleaner.Proofs.Bindings.Amend
import Gleaner.Proofs.Bindings.Coercion
import Gleaner.Proofs.Json.Embedded
import Gleaner.Rehearsal.Script

/-!
# A fix that is proposed is a fix that is accepted

An advisor checks a new value by reading it as a record of its own. That is enough: coercing
the value once more changes nothing, every record reads back as it was written, and no field
depends on another, so the patch is accepted by every record and changes nothing but its key.
-/

set_option autoImplicit false

namespace Gleaner

/-- The keys that a fix may be asked for: all but those about the record itself. -/
def BindingKey.fixable : List String :=
  (places ++ conditions).map (·.wire)

/-- What a patch with a value under a key makes of that key: selectors for details come before
those there are, filters and elements are written over those there are, name by name, and any
other value takes the place of the old one. -/
def PageBindings.Takes (key : String) (value : Json) (b merged : PageBindings) : Prop :=
  match key with
  | "DETAILS_CONTENT" =>
      ∃ selectors, value = .ofStrings selectors ∧
        merged.detailsContent = distinct (selectors ++ b.detailsContent)
  | "FILTERS" =>
      ∃ filters, Reading.entries FilterBinding.read value = .ok filters ∧
        merged.filters = Entries.overlay b.filters filters
  | "ELEMENTS" =>
      ∃ elements, Reading.entries Reading.string value = .ok elements ∧
        merged.elements = Entries.overlay b.elements elements
  | "ITEM_ID" => ∃ rule, ItemIdRule.read value = .ok rule ∧ merged.itemId = some rule
  | other => merged.value? other = some value

/-- A patch of one key: the version grows, the key takes the value, and the rest stays. -/
structure PageBindings.Patched (now : Float) (key : String) (value : Json)
    (b merged : PageBindings) : Prop where
  version : merged.version = b.version + 1
  updatedAt : merged.updatedAt = now
  takes : b.Takes key value merged
  keeps : ∀ other, other ≠ key → other ≠ "version" → other ≠ "updatedAt" →
    merged.value? other = b.value? other

namespace PageBindings

/-!
## Values that are written as they were proposed
-/

section Proposed

variable {key : String} {value : Json} {now : Float} {fields : Fields} {b : PageBindings}

theorem proposed_text {part : Option String}
    (made : Reading.orNull Reading.string value = .ok part) (given : value.isNull = false) :
    Json.ofString? part = value := by
  obtain ⟨text, rfl, read⟩ := Reading.orNull_eq_ok made given
  exact (Reading.string_eq_ok.mp read).symm

theorem proposed_choice {α : Type} {choices : List (String × α)} {part : Option α}
    (name : α → String) (named : ∀ choice ∈ choices, name choice.2 = choice.1)
    (made : Reading.orNull (Reading.choice choices) value = .ok part)
    (given : value.isNull = false) : ∃ one, part = some one ∧ value = .str (name one) := by
  obtain ⟨one, held, read⟩ := Reading.orNull_eq_ok made given
  obtain ⟨text, rfl, found⟩ := Reading.choice_eq_ok.mp read
  exact ⟨one, held, congrArg Json.str (named _ (Entries.mem_of_find? found)).symm⟩

theorem proposed_condition {part : Option StateCondition}
    (made : Reading.orNull StateCondition.reading value = .ok part) (given : value.isNull = false)
    (condition : BindingKey.isCondition key = true)
    (settled : Coerce.value? key value = some value) :
    ∃ condition, part = some condition ∧ value = condition.toJson := by
  rw [Coerce.value?_condition condition given] at settled
  obtain ⟨written, _, rfl⟩ := Option.map_eq_some_iff.mp settled
  obtain ⟨read, held, same⟩ := Reading.orNull_eq_ok made given
  rw [StateCondition.reading, written.read?_toJson] at same
  cases same
  exact ⟨written, held, rfl⟩

/-- A record is written with the value that it was read from. -/
theorem value?_read (fixable : key ∈ BindingKey.fixable)
    (single : key ∉ ["DETAILS_CONTENT", "FILTERS", "ELEMENTS", "ITEM_ID"])
    (reads : b.ReadsFrom now fields) (held : Entries.find? key fields = some value)
    (given : value.isNull = false) (settled : Coerce.value? key value = some value) :
    b.value? key = some value := by
  have text {name : FieldName} {part : Option String}
      (held : Entries.find? name.wire fields = some value)
      (reads : Fields.Reads fields name none (Reading.orNull Reading.string) part)
      (found : Entries.find? name.wire b.allFields = some (.ofString? part)) :
      b.value? name.wire = some value :=
    value?_of_part found (proposed_text (reads_first reads held) given) given
  have condition {name : FieldName} {part : Option StateCondition} {written : Json}
      (held : Entries.find? name.wire fields = some value)
      (isCondition : BindingKey.isCondition name.wire = true)
      (settled : Coerce.value? name.wire value = some value)
      (reads : Fields.ReadsCondition fields name part)
      (found : Entries.find? name.wire b.allFields = some written)
      (same : written = (part.map StateCondition.toJson).getD .null) :
      b.value? name.wire = some value := by
    obtain ⟨condition, rfl, rfl⟩ :=
      proposed_condition (reads_first reads held) given isCondition settled
    exact value?_of_part found same condition.isNull_toJson
  have required {name : FieldName} {part : String}
      (held : Entries.find? name.wire fields = some value)
      (reads : Fields.Reads fields name "" Reading.string part)
      (found : Entries.find? name.wire b.allFields = some (.str part)) :
      b.value? name.wire = some value :=
    value?_of_part found (Reading.string_eq_ok.mp (reads_first reads held)).symm given
  simp only [BindingKey.fixable, BindingKey.places, BindingKey.conditions, List.map_append,
    List.map_cons, List.map_nil, List.mem_append, List.mem_cons, List.not_mem_nil, or_false]
    at fixable
  rcases fixable with (rfl | rfl | rfl | rfl | rfl | rfl | rfl | rfl | rfl | rfl | rfl | rfl |
    rfl | rfl | rfl | rfl | rfl) | rfl | rfl | rfl | rfl | rfl | rfl | rfl
  · exact text held reads.searchBox rfl
  · exact text held reads.searchSubmit rfl
  · exact required held reads.list rfl
  · exact required held reads.listItem rfl
  · exact text held reads.listItemActive rfl
  · exact text held reads.detailsPanel rfl
  · exact absurd (by decide) single
  · exact absurd (by decide) single
  · exact absurd (by decide) single
  · exact text held reads.scrollContainer rfl
  · exact text held reads.loadMoreButton rfl
  · exact text held reads.nextPageButton rfl
  · exact absurd (by decide) single
  · obtain ⟨one, made, rfl⟩ :=
      proposed_choice ScrollBehavior.name (by decide) (reads_first reads.scrollBehavior held) given
    exact value?_of_part rfl (by rw [made]; rfl) rfl
  · obtain ⟨one, made, rfl⟩ :=
      proposed_choice ClickBehavior.name (by decide) (reads_first reads.clickBehavior held) given
    exact value?_of_part rfl (by rw [made]; rfl) rfl
  · obtain ⟨one, made, rfl⟩ :=
      proposed_choice ReturnToList.name (by decide) (reads_first reads.returnToList held) given
    exact value?_of_part rfl (by rw [made]; rfl) rfl
  · exact text held reads.closeDetailsButton rfl
  · exact condition held rfl settled reads.states.pageLoaded rfl
      (by cases b.states.pageLoaded <;> rfl)
  · exact condition held rfl settled reads.states.listLoaded rfl
      (by cases b.states.listLoaded <;> rfl)
  · exact condition held rfl settled reads.states.listUpdated rfl
      (by cases b.states.listUpdated <;> rfl)
  · exact condition held rfl settled reads.states.detailsLoaded rfl
      (by cases b.states.detailsLoaded <;> rfl)
  · exact condition held rfl settled reads.states.noMoreItems rfl
      (by cases b.states.noMoreItems <;> rfl)
  · exact condition held rfl settled reads.states.listEmpty rfl
      (by cases b.states.listEmpty <;> rfl)
  · exact condition held rfl settled reads.states.loading rfl
      (by cases b.states.loading <;> rfl)

end Proposed

/-!
## Patches of one key
-/

theorem fixable_settable {key : String} (fixable : key ∈ BindingKey.fixable) :
    key ∈ wires ∧ BindingKey.isMeta key = false ∧ BindingKey.wire? key = some key := by
  revert key
  decide

/-- The record that a value makes of another one, if the value is read on its own. -/
theorem patched_amend {key : String} {value : Json} {earlier : Float} {alone : PageBindings}
    (fixable : key ∈ BindingKey.fixable) (settled : Coerce.value? key value = some value)
    (reads : alone.ReadsFrom earlier [(key, value)]) (now : Float) (b : PageBindings) :
    b.Patched now key value (b.amend now key alone) where
  version := rfl
  updatedAt := rfl
  keeps _ differs unversioned untimed := value?_amend (Ne.symm differs) unversioned untimed
  takes := by
    have given := Coerce.given_of_value? settled
    unfold Takes
    split
    next =>
      exact ⟨_, Reading.strings_eq_ok.mp (reads_alone rfl reads.detailsContent), rfl⟩
    next => exact ⟨_, reads_alone rfl reads.filters, rfl⟩
    next => exact ⟨_, reads_alone rfl reads.elements, rfl⟩
    next =>
      obtain ⟨rule, held, read⟩ := Reading.orNull_eq_ok (reads_alone rfl reads.itemId) given
      exact ⟨rule, read, held⟩
    next noDetails noFilters noElements noRule =>
      have single : key ∉ ["DETAILS_CONTENT", "FILTERS", "ELEMENTS", "ITEM_ID"] := by
        simp only [List.mem_cons, List.not_mem_nil, or_false, not_or]
        exact ⟨noDetails, noFilters, noElements, noRule⟩
      have joined : key ∉ ["DETAILS_CONTENT", "FILTERS", "ELEMENTS"] := by
        simp only [List.mem_cons, List.not_mem_nil, or_false, not_or]
        exact ⟨noDetails, noFilters, noElements⟩
      rw [value?_amend_self (fixable_settable fixable).2.1 joined]
      exact value?_read fixable single reads (if_pos rfl) given settled

end PageBindings

namespace Advisor

variable {σ : Type}

/-- What the model is asked for a fix. -/
def question (advisor : Advisor σ) (request : RepairRequest) : Prompt :=
  Prompt.repair (limits advisor.settings) request.command.toJson request.binding
    (request.current.getD .null) request.error request.dom

theorem readRepair_eq_ok {earlier : Float} {key : String} {current : Json} {answer : String}
    {fixes : Fields} (read : readRepair earlier key current answer = .ok fixes) :
    ∃ raw value alone, Json.firstObject? answer = some raw ∧
      Entries.find? key (Coerce.fields raw) = some value ∧ fixes = [(key, value)] ∧
      PageBindings.ofFieldsOrFault earlier fixes = .ok alone := by
  unfold readRepair at read
  extract_lets raw at read
  split at read
  next => cases read
  next some =>
    have answered : Json.firstObject? answer = Option.some raw := by
      cases found : Json.firstObject? answer with
      | none => exact absurd (by simp [raw, found]) some
      | some fields => simp [raw, found]
    split at read
    next => cases read
    next value found =>
      split at read
      next => cases read
      next =>
        split at read
        next => cases read
        next =>
          split at read
          next alone made =>
            cases read
            exact ⟨raw, value, alone, answered, found, rfl, made⟩
          next => cases read

/-- A fix that an advisor proposes has the coerced value of the key that it was asked for, and
every record accepts it as a patch of that key and nothing else. -/
theorem fix_merges (advisor : Advisor σ) {request : RepairRequest} {world : σ} {fixes : Fields}
    (fixable : request.binding ∈ BindingKey.fixable)
    (fixed : (advisor.fix request world).1 = .ok (.ok fixes)) :
    ∃ answer raw value,
      (advisor.inquire (advisor.question request) world).1 = .ok (.ok answer) ∧
      Json.firstObject? answer = some raw ∧
      (∃ field ∈ raw, BindingKey.wire? field.1 = some request.binding ∧
        Coerce.value? request.binding field.2 = some value) ∧
      fixes = [(request.binding, value)] ∧
      ∀ (now : Float) (b : PageBindings), ∃ merged, b.merge now fixes = .ok merged ∧
        b.Patched now request.binding value merged := by
  simp only [fix, bind, ExceptT.bind, ExceptT.mk, ExceptT.bindCont, StateT.bind] at fixed
  rcases asked : advisor.inquire (advisor.question request) world with ⟨fault | reply, after⟩
  · rw [question] at asked
    rw [asked] at fixed
    cases fixed
  · rw [question] at asked
    rw [asked] at fixed
    cases reply with
    | error reason => cases fixed
    | ok answer =>
        obtain ⟨raw, value, alone, answered, found, rfl, made⟩ :=
          readRepair_eq_ok (Except.ok.inj fixed)
        obtain ⟨field, among, named, coerced⟩ := Coerce.find?_fields found
        have settled := Coerce.value?_settles request.binding field.2 value coerced
        obtain ⟨known, settable, wire⟩ := PageBindings.fixable_settable fixable
        refine ⟨answer, raw, value, rfl, answered, ⟨field, among, named, coerced⟩, rfl,
          fun now b => ⟨b.amend now request.binding alone, ?_, ?_⟩⟩
        · exact PageBindings.merge_of_change (Patch.changes_of_settled wire settable settled) known
            settable made
        · exact PageBindings.patched_amend fixable settled
            (PageBindings.ofFieldsOrFault_eq_ok.mp made) now b

end Advisor

/-!
## A filter by its selector alone
-/

namespace Rehearsal

def plainAdvisor : Advisor World :=
  advisor {} none Advisor.defaultRetry

/-- A world whose model has one answer. -/
def World.answering (text : String) : World :=
  { advice := { answers := [.ok (ScriptedModel.reply text (.int 0))] } }

def dateRequest : RepairRequest :=
  { command := .goToFilter "date"
    binding := "FILTERS"
    current := none
    error := "Filter \"date\" not defined in FILTERS bindings"
    dom := "" }

/-- An answer that names the selector of a filter, with blanks around it. -/
def dateFields : Fields := [("filters", .obj [("date", .str " .date ")])]

theorem dateFields_found :
    Json.firstObject? (Json.obj dateFields).write = some dateFields := by
  have keyed : Json.Keyed (.obj dateFields) :=
    .obj (by decide) (List.forall_mem_singleton.mpr
      (.obj (by decide) (List.forall_mem_singleton.mpr (.str _))))
  exact Json.firstObject?_write keyed

theorem fix_date {text : String} (found : Json.firstObject? text = some dateFields) :
    (plainAdvisor.fix dateRequest (.answering text)).1 =
      .ok (.ok [("FILTERS", .obj [("date", .obj [("selector", .str ".date")])])]) := by
  have read (now : Float) : Advisor.readRepair now "FILTERS" .null text =
      .ok [("FILTERS", .obj [("date", .obj [("selector", .str ".date")])])] := by
    simp only [Advisor.readRepair, found]
    rfl
  exact congrArg Except.ok (read _)

end Rehearsal

open Rehearsal in
theorem Advisor.fix_merges_for_date :
    ∃ text fixes, (plainAdvisor.fix dateRequest (.answering text)).1 = .ok (.ok fixes) ∧
      ∀ (now : Float) (b : PageBindings), ∃ merged, b.merge now fixes = .ok merged ∧
        merged.filters = Entries.overlay b.filters [("date", { selector := ".date" })] := by
  have fixed := fix_date dateFields_found
  obtain ⟨_, _, value, _, _, _, same, accepted⟩ :=
    fix_merges plainAdvisor (by decide : dateRequest.binding ∈ BindingKey.fixable) fixed
  cases same
  refine ⟨_, _, fixed, fun now b => ?_⟩
  obtain ⟨merged, made, patched⟩ := accepted now b
  obtain ⟨filters, read, taken⟩ := patched.takes
  cases read
  exact ⟨merged, made, taken⟩

end Gleaner
