import Gleaner.Proofs.Advisor.Upkeep
import Gleaner.Proofs.Bindings.Repeats
import Gleaner.Proofs.Bindings.Settled

/-!
# Fixes that repeat what is there

An advisor compares the value that it proposes with the one that is written for the record, as a
whole. A value that is written like it is no fix. Neither is one that the record has already in
another writing, but that is seen only by merging: a part of filters, elements or details
selectors, or a rule without what is filled in for it, is proposed and changes nothing. Any other
value that is proposed changes what is written under its key.
-/

set_option autoImplicit false

namespace Gleaner

namespace Advisor

variable {σ : Type}

/-- What the model answers is read as a fix. -/
theorem fix_of_answer {advisor : Advisor σ} {request : RepairRequest} {world : σ} {answer : String}
    (asked : (advisor.inquire (advisor.question request) world).1 = .ok (.ok answer)) :
    ∃ now, (advisor.fix request world).1 =
      .ok (readRepair now request.binding (request.current.getD .null) answer) := by
  simp only [fix, bind, ExceptT.bind, ExceptT.mk, ExceptT.bindCont, StateT.bind]
  rw [question] at asked
  rcases inquired : advisor.inquire _ world with ⟨reply, after⟩
  rw [inquired] at asked
  cases asked
  exact ⟨_, rfl⟩

/-- An answer that repeats what is written as the current value is no fix. -/
theorem readRepair_unchanged {now : Float} {key answer : String} {current value : Json}
    {raw : Fields} (answered : Json.firstObject? answer = some raw)
    (found : Entries.find? key (Coerce.fields raw) = some value)
    (same : value.same current = true) :
    readRepair now key current answer = .error ("Proposed " ++ key ++ " is unchanged") := by
  obtain ⟨field, among, -, coerced⟩ := Coerce.find?_fields found
  have some : raw.isEmpty = false := by
    cases raw with
    | nil => cases among
    | cons => rfl
  have given := Coerce.given_of_value? (Coerce.value?_settles key field.2 value coerced)
  simp [readRepair, answered, some, found, given, same]

/-- What is read of an answer as a fix is not the current value. -/
theorem readRepair_differs {now : Float} {key answer : String} {current value : Json}
    (read : readRepair now key current answer = .ok [(key, value)]) :
    value.same current = false := by
  obtain ⟨raw, found, _, answered, coerced, same, -⟩ := readRepair_eq_ok read
  cases same
  refine Bool.eq_false_of_not_eq_true fun unchanged => ?_
  cases read.symm.trans (readRepair_unchanged answered coerced unchanged)

section Merged

variable {earlier : Float} {key answer : String} {b : PageBindings} {fixes : Fields}

/-- A value for what is about the record itself is not taken over by any record. -/
theorem readRepair_keeps (isMeta : BindingKey.isMeta key = true) {current : Json}
    (read : readRepair earlier key current answer = .ok fixes) (now : Float) :
    b.merge now fixes = .ok { b with version := b.version + 1, updatedAt := now } := by
  obtain ⟨raw, value, alone, -, found, rfl, -⟩ := readRepair_eq_ok read
  obtain ⟨field, -, named, coerced⟩ := Coerce.find?_fields found
  have wire := BindingKey.wire?_of_mem_wires (BindingKey.mem_wires named)
  have settled := Coerce.value?_settles key field.2 value coerced
  refine PageBindings.merge_of_no_change ?_
  rw [Patch.changes, Coerce.fields_of_settled wire settled, List.filter_cons, isMeta]
  rfl

/-- What is proposed instead of the value that is written for a record is accepted by the record,
and it changes what is written under its key or repeats what the record has. -/
theorem readRepair_changes
    (read : readRepair earlier key ((b.value? key).getD .null) answer = .ok fixes) :
    ∃ value, fixes = [(key, value)] ∧
      ∀ now, ∃ merged, b.merge now fixes = .ok merged ∧
        (b.Repeats key value →
          ∀ other, other ≠ "version" → other ≠ "updatedAt" → merged.value? other = b.value? other) ∧
        (¬b.Repeats key value →
          ((merged.value? key).getD .null).same ((b.value? key).getD .null) = false) := by
  obtain ⟨raw, value, alone, answered, found, rfl, made⟩ := readRepair_eq_ok read
  refine ⟨value, rfl, fun now => ?_⟩
  cases settable : BindingKey.isMeta key with
  | true =>
      refine ⟨_, readRepair_keeps settable read now, fun _ other unversioned untimed => ?_,
        fun fresh => absurd (PageBindings.repeats_of_isMeta settable b value) fresh⟩
      exact PageBindings.value?_stamped unversioned untimed
  | false =>
      obtain ⟨field, among, named, coerced⟩ := Coerce.find?_fields found
      have settled := Coerce.value?_settles key field.2 value coerced
      have known := BindingKey.mem_wires named
      have wire := BindingKey.wire?_of_mem_wires known
      have fixable := PageBindings.fixable_of_settable settable known
      have patched := PageBindings.patched_amend fixable settled
        (PageBindings.ofFieldsOrFault_eq_ok.mp made) now b
      refine ⟨b.amend now key alone, ?_, fun repeats other unversioned untimed => ?_, fun fresh => ?_⟩
      · exact PageBindings.merge_of_change (Patch.changes_of_settled wire settable settled) known
          settable made
      · by_cases here : other = key
        · rw [here]
          exact patched.takes.value?_of_repeats settable repeats
        · exact patched.keeps other here unversioned untimed
      · have keyed : Json.Keyed field.2 := by
          cases Json.keyed_of_firstObject? answered with
          | obj _ each => exact each field among
        have once (joins : key = "FILTERS" ∨ key = "ELEMENTS") : value.Once :=
          Coerce.once_value? joins keyed coerced
        refine Bool.eq_false_of_not_eq_true fun same => fresh ?_
        exact patched.takes.repeats_of_same once (readRepair_differs read) same

end Merged

/-- A fix is a value for the key that was asked for, and the record in which that key is written as
the current value accepts it: if it repeats what the record has, in another writing, nothing changes
but the version and the time, and otherwise something else is written under the key. An answer with
the current value is no fix. -/
theorem fix_changes (advisor : Advisor σ) {request : RepairRequest} {world : σ} {b : PageBindings}
    (current : request.current = b.value? request.binding) :
    (∀ fixes, (advisor.fix request world).1 = .ok (.ok fixes) →
      ∃ value, fixes = [(request.binding, value)] ∧
        ∀ now, ∃ merged, b.merge now fixes = .ok merged ∧
          (b.Repeats request.binding value →
            ∀ key, key ≠ "version" → key ≠ "updatedAt" → merged.value? key = b.value? key) ∧
          (¬b.Repeats request.binding value →
            ((merged.value? request.binding).getD .null).same
              ((b.value? request.binding).getD .null) = false)) ∧
    ∀ answer raw value,
      (advisor.inquire (advisor.question request) world).1 = .ok (.ok answer) →
      Json.firstObject? answer = some raw →
      Entries.find? request.binding (Coerce.fields raw) = some value →
      value.same ((b.value? request.binding).getD .null) = true →
      (advisor.fix request world).1 =
        .ok (.error ("Proposed " ++ request.binding ++ " is unchanged")) := by
  constructor
  · intro fixes fixed
    obtain ⟨answer, _, -, read⟩ := fix_eq_ok (Prod.ext fixed rfl)
    rw [current] at read
    exact readRepair_changes read
  · intro answer raw value asked answered found same
    obtain ⟨now, fixed⟩ := fix_of_answer asked
    rw [← current] at same
    rw [fixed, readRepair_unchanged answered found same]

end Advisor

/-!
## A button that is proposed again
-/

namespace Rehearsal

def buttons : PageBindings :=
  { elements := [("apply", ".apply"), ("save", ".save")], updatedAt := 0 }

def saveRequest : RepairRequest :=
  { command := .goTo "save"
    binding := "ELEMENTS"
    current := buttons.value? "ELEMENTS"
    error := "Element not found"
    dom := "" }

/-- An answer that names one of the two buttons. -/
def applyFields (selector : String) : Fields :=
  [("ELEMENTS", .obj [("apply", .str selector)])]

theorem applyFields_found (selector : String) :
    Json.firstObject? (Json.obj (applyFields selector)).write = some (applyFields selector) := by
  have keyed : Json.Keyed (.obj (applyFields selector)) :=
    Json.keyed_alone _ (Json.keyed_alone _ (.str selector))
  exact Json.firstObject?_write keyed

/-- One button is not both of them, so the answer is proposed as a fix. -/
theorem fix_apply {selector : String}
    (coerced : Coerce.fields (applyFields selector) = applyFields selector) :
    (plainAdvisor.fix saveRequest (.answering (Json.obj (applyFields selector)).write)).1 =
      .ok (.ok (applyFields selector)) := by
  have read (now : Float) : Advisor.readRepair now "ELEMENTS"
      ((buttons.value? "ELEMENTS").getD .null) (Json.obj (applyFields selector)).write =
        .ok (applyFields selector) := by
    simp only [Advisor.readRepair, applyFields_found, Option.getD_some, coerced]
    rfl
  exact congrArg Except.ok (read _)

end Rehearsal

open Rehearsal in
theorem Advisor.fix_changes_applyNow :
    ∃ text fixes merged, (plainAdvisor.fix saveRequest (.answering text)).1 = .ok (.ok fixes) ∧
      buttons.merge 0 fixes = .ok merged ∧
      ((merged.value? "ELEMENTS").getD .null).same
        ((buttons.value? "ELEMENTS").getD .null) = false := by
  have fixed := fix_apply (rfl : Coerce.fields (applyFields ".apply-now") = _)
  obtain ⟨changes, -⟩ := fix_changes plainAdvisor
    (rfl : saveRequest.current = buttons.value? saveRequest.binding)
  obtain ⟨value, same, accepted⟩ := changes _ fixed
  cases same
  obtain ⟨merged, made, -, differs⟩ := accepted 0
  refine ⟨_, _, merged, fixed, made, differs ?_⟩
  rintro ⟨elements, read, there⟩
  cases read
  exact absurd (there ("apply", ".apply-now") List.mem_cons_self) (by decide)

open Rehearsal in
/-- The button that the record has is proposed, and merging it changes nothing. -/
theorem Advisor.fix_repeats_apply :
    ∃ merged, (plainAdvisor.fix saveRequest
          (.answering (Json.obj (applyFields ".apply")).write)).1 =
        .ok (.ok (applyFields ".apply")) ∧
      saveRequest.current = buttons.value? "ELEMENTS" ∧
      buttons.merge 0 (applyFields ".apply") = .ok merged ∧
      merged.value? "ELEMENTS" = buttons.value? "ELEMENTS" := by
  have fixed := fix_apply (rfl : Coerce.fields (applyFields ".apply") = _)
  exact ⟨_, fixed, rfl, rfl, rfl⟩

end Gleaner
