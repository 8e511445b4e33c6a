import Gleaner.Proofs.Advisor.Fix
import Gleaner.Proofs.Bindings.Demands
import Gleaner.Proofs.Harvest.Beside
import Gleaner.Proofs.Run.Keeping
import Gleaner.Proofs.Run.Mending

/-!
# Which demands a record still meets after repairs

A repair that an advisor proposes concerns the binding of one command, and the run goes on only
if that command then succeeds. So a repaired record still says where the list and its items are:
where it did not, the command that was to go there would have failed. The rule for the ids of items,
the scroll behaviour and its buttons are no command's binding, and selectors for details are only
added.
-/

set_option autoImplicit false

namespace Gleaner

variable {σ : Type}

namespace PageBindings

/-- A record meets the demands that another one met, and those that are met by any record that was
discovered. -/
structure Maintains (original b : PageBindings) : Prop where
  grounded : b.Grounded
  details : original.showsDetails = true → b.showsDetails = true
  button : b.hasButton = original.hasButton

end PageBindings

/-!
## Commands
-/

namespace Command

variable {host : Host σ} {session after : Session σ} {report : Report}

theorem bindingKey?_fixable {command : Command} {key : String}
    (keyed : command.bindingKey? = some key) : key ∈ BindingKey.fixable := by
  unfold bindingKey? at keyed
  split at keyed <;> cases keyed <;> decide

/-- No command is repaired by another rule for ids, another scroll behaviour or another button. -/
theorem bindingKey?_apart {command : Command} {key : String}
    (keyed : command.bindingKey? = some key) :
    key ∉ ["ITEM_ID", "SCROLL_BEHAVIOR", "LOAD_MORE_BUTTON", "NEXT_PAGE_BUTTON"] := by
  unfold bindingKey? at keyed
  split at keyed <;> cases keyed <;> decide

theorem eq_goTo_list {command : Command} (keyed : command.bindingKey? = some "LIST") :
    command = .goTo "list" := by
  unfold bindingKey? at keyed
  split at keyed <;> first | rfl | simp at keyed

theorem eq_goToItem {command : Command} (keyed : command.bindingKey? = some "LIST_ITEM") :
    ∃ which, command = .goToItem which := by
  unfold bindingKey? at keyed
  split at keyed <;> first | exact ⟨_, rfl⟩ | simp at keyed

theorem list_of_goTo (ran : Command.run host (.goTo "list") session = (.ok report, after)) :
    session.bindings.list ≠ "" := by
  intro empty
  have unplaced : Interp.focusSelector session.counted.bindings "list" =
      .error (.bindingMissing "LIST not defined in bindings" "LIST" (some "GO_TO")) := by
    have none : session.counted.bindings.list = "" := empty
    simp [Interp.focusSelector, none]
  rw [Command.run, report_apply] at ran
  simp only [Interp.goTo, Interp.bind_apply, Interp.bindings_apply, Interp.liftExcept_apply, unplaced]
    at ran
  cases ran

theorem listItem_of_goToItem {which : ItemChoice}
    (ran : Command.run host (.goToItem which) session = (.ok report, after)) :
    Text.isBlankText session.bindings.listItem = false := by
  by_contra blank
  have unplaced : session.counted.bindings.itemSelector =
      .error (.bindingMissing "LIST_ITEM not defined in bindings" "LIST_ITEM" none) := by
    rw [PageBindings.itemSelector]
    exact if_pos (Bool.eq_true_of_not_eq_false blank)
  rw [Command.run, report_apply] at ran
  simp only [Interp.goToItem, Interp.listItems, Interp.bind_apply, Interp.bindings_apply,
    Interp.liftExcept_apply, unplaced] at ran
  cases ran

end Command

/-!
## Repaired records
-/

namespace PageBindings

theorem Maintains.refl {b : PageBindings} (grounded : b.Grounded) : b.Maintains b :=
  ⟨grounded, fun shown => shown, rfl⟩

section Amended

variable {host : Host σ} {command : Command} {session after : Session σ} {report : Report}
  {now earlier : Float} {key : String} {value : Json} {original b alone : PageBindings}

theorem showsDetails_amend (shown : b.showsDetails = true) :
    (b.amend now key alone).showsDetails = true := by
  show ((if key = "DETAILS_CONTENT" then distinct (alone.detailsContent ++ b.detailsContent)
    else b.detailsContent).any fun selector => !Text.isBlankText selector) = true
  split
  · obtain ⟨selector, there, solid⟩ := List.any_eq_true.mp shown
    exact List.any_eq_true.mpr ⟨selector, mem_distinct.mpr (List.mem_append_right _ there), solid⟩
  · exact shown

theorem hasButton_amend (keyed : command.bindingKey? = some key) :
    (b.amend now key alone).hasButton = b.hasButton := by
  have apart := command.bindingKey?_apart keyed
  simp only [List.mem_cons, List.not_mem_nil, or_false, not_or] at apart
  obtain ⟨-, scroll, more, next⟩ := apart
  simp only [hasButton, amend, if_neg scroll, if_neg more, if_neg next]

/-- A condition that was there, or that a patch gives, is there. -/
theorem isSome_amend {name : FieldName} {new old : Option StateCondition}
    (there : old.isSome = true) (given : value.isNull = false)
    (reads : Fields.ReadsCondition [(key, value)] name new) :
    (if key = name.wire then new else old).isSome = true := by
  split
  next same =>
    obtain ⟨condition, rfl, -⟩ := Reading.orNull_eq_ok (reads_alone same reads) given
    rfl
  next => exact there

/-- A selector that a patch gives says something unless it is empty. -/
theorem solid_alone {name : FieldName} {text : String} (plain : Coerce.IsPlain name.wire)
    (same : key = name.wire) (settled : Coerce.value? key value = some value)
    (reads : Fields.Reads [(key, value)] name "" Reading.string text) (filled : text ≠ "") :
    Text.isBlankText text = false := by
  obtain rfl := Reading.string_eq_ok.mp (reads_alone same reads)
  rw [same, Coerce.value?_plain plain rfl] at settled
  exact Text.isBlankText_of_strip (Json.str.inj (Option.some.inj settled)) filled

/-- The record keeps meeting its demands when one value is patched and the command that needed it
then succeeds. -/
theorem Maintains.amend (maintains : original.Maintains b)
    (keyed : command.bindingKey? = some key) (settled : Coerce.value? key value = some value)
    (reads : alone.ReadsFrom earlier [(key, value)])
    (patched : session.bindings = b.amend now key alone)
    (ran : command.run host session = (.ok report, after)) :
    original.Maintains (b.amend now key alone) := by
  obtain ⟨⟨list, listItem, itemId, listLoaded, detailsLoaded⟩, details, button⟩ := maintains
  have given := Coerce.given_of_value? settled
  refine ⟨⟨?_, ?_, ?_, ?_, ?_⟩, fun shown => showsDetails_amend (details shown),
    (hasButton_amend keyed).trans button⟩
  · show Text.isBlankText (if key = "LIST" then alone.list else b.list) = false
    split
    next same =>
      subst same
      obtain rfl := command.eq_goTo_list keyed
      have filled := Command.list_of_goTo ran
      rw [patched] at filled
      exact solid_alone ⟨by decide, by decide⟩ rfl settled reads.list filled
    next => exact list
  · show Text.isBlankText (if key = "LIST_ITEM" then alone.listItem else b.listItem) = false
    split
    next same =>
      subst same
      obtain ⟨which, rfl⟩ := command.eq_goToItem keyed
      have solid := Command.listItem_of_goToItem ran
      rw [patched] at solid
      exact solid
    next => exact listItem
  · have apart : key ≠ "ITEM_ID" := fun same =>
      command.bindingKey?_apart keyed (same ▸ List.mem_cons_self)
    exact (congrArg Option.isSome (if_neg apart)).trans itemId
  · exact isSome_amend listLoaded given reads.states.listLoaded
  · exact isSome_amend detailsLoaded given reads.states.detailsLoaded

end Amended

end PageBindings

namespace Advisor

variable {advisor : Advisor σ}

/-- A fix is read of what the model answers. -/
theorem fix_eq_ok {request : RepairRequest} {world after : σ} {fixes : Fields}
    (fixed : advisor.fix request world = (.ok (.ok fixes), after)) :
    ∃ answer now, (advisor.inquire (advisor.question request) world).1 = .ok (.ok answer) ∧
      readRepair now request.binding (request.current.getD .null) answer = .ok fixes := by
  obtain ⟨reply, there, asked, fixed⟩ := Action.bind_ok fixed
  cases reply with
  | error reason => cases fixed
  | ok answer =>
      dsimp only at fixed
      rw [Action.get_bind_apply] at fixed
      have read := congrArg Prod.fst fixed
      exact ⟨answer, _, congrArg Prod.fst asked, Except.ok.inj read⟩

/-- A patch that an advisor proposes has one value for the binding that it was asked for. -/
theorem repairer_ok {request : RepairRequest} {world : σ} {changes : Fields}
    (answered : (advisor.repairer request world).1 = .ok (some changes)) :
    ∃ value earlier alone, changes = [(request.binding, value)] ∧
      Coerce.value? request.binding value = some value ∧
      PageBindings.ofFieldsOrFault earlier changes = .ok alone := by
  obtain ⟨fixed, there, asked, answered⟩ := Action.bind_ok (Prod.ext answered rfl)
  cases fixed with
  | error reason => cases answered
  | ok fixes =>
      cases answered
      obtain ⟨_, earlier, -, read⟩ := fix_eq_ok asked
      obtain ⟨raw, value, alone, -, found, same, made⟩ := readRepair_eq_ok read
      obtain ⟨field, -, -, coerced⟩ := Coerce.find?_fields found
      exact ⟨value, earlier, alone, same, Coerce.value?_settles _ field.2 value coerced, made⟩

end Advisor

/-!
## Runs
-/

namespace Session

variable {host : Host σ} {advisor : Advisor σ} {original : PageBindings}
  (repairs : host.repairer = some advisor.repairer)

include repairs

theorem course_maintains {command : Command} {before after : Session σ}
    {requests : List RepairRequest} {report : Report}
    (maintains : original.Maintains before.bindings)
    (course : Course host command before requests (.ok report) after) :
    original.Maintains after.bindings := by
  generalize ended : Outcome.ok report = outcome at course
  cases course with
  | succeeded ran =>
      have same := command.run_bindings host before.bindings before rfl
      rw [ran] at same
      dsimp only at same
      rwa [same]
  | stands => cases ended
  | unhelped => cases ended
  | @retried request changes asking patched asked some accepted =>
      obtain ⟨repairer, given, answered⟩ := asked.answered
      rw [repairs] at given
      cases given
      have told : (advisor.repairer request
          (domText host (command.run host before).2).2.world).1 = .ok (.some changes) :=
        congrArg Prod.fst answered
      obtain ⟨value, earlier, alone, rfl, settled, made⟩ := Advisor.repairer_ok told
      obtain ⟨known, settable, wire⟩ :=
        PageBindings.fixable_settable (command.bindingKey?_fixable asked.keyed)
      have merged : asking.bindings.merge (host.clock.time asking.world)
          [(request.binding, value)] = .ok (asking.bindings.amend _ request.binding alone) :=
        PageBindings.merge_of_change (Patch.changes_of_settled wire settable settled) known settable
          made
      have amended : patched.fixed.bindings =
          before.bindings.amend (host.clock.time asking.world) request.binding alone := by
        rw [patch, merged] at accepted
        cases accepted
        exact congrArg (fun b => PageBindings.amend _ _ b alone) asked.bindings
      rcases ran : command.run host patched.fixed with ⟨report | failure, final⟩
      · have same := command.run_bindings host patched.fixed.bindings patched.fixed rfl
        rw [ran] at same
        dsimp only at same ⊢
        rw [same, amended]
        exact maintains.amend asked.keyed settled (PageBindings.ofFieldsOrFault_eq_ok.mp made)
          amended ran
      · rw [ran] at ended
        cases ended

theorem courses_maintain {commands : List Command} {session final : Session σ}
    {requests : List RepairRequest} (maintains : original.Maintains session.bindings)
    (courses : Courses host commands session requests none final) :
    original.Maintains final.bindings := by
  generalize fine : none = error at courses
  induction courses with
  | done => exact maintains
  | stopped => rwa [Session.checkTime_bindings]
  | next going course courses ih =>
      refine ih (course_maintains repairs ?_ course) fine
      rwa [Session.checkTime_bindings]
  | failed => cases fine

theorem execute_maintains {recipe : Recipe} {session final : Session σ} {result : RunResult}
    (ran : execute host recipe session = (.ok result, final)) (fine : result.error = none)
    (grounded : session.bindings.Grounded) : session.bindings.Maintains final.bindings := by
  have begun := begin_bindings host recipe.limits session
  rw [execute_apply] at ran
  rcases opened : begin host recipe.limits session with ⟨fault | _, here⟩
  · rw [opened] at ran
    cases ran
  · rw [opened] at ran begun
    dsimp only at ran begun
    obtain ⟨requests, courses, -⟩ := runAll_courses host recipe.commands here
    rcases ended : runAll host recipe.commands here with ⟨error, after⟩
    rw [ended] at ran courses
    cases ran
    obtain ⟨rfl, -⟩ := Option.or_eq_none_iff.mp fine
    have begins : session.bindings.Maintains here.bindings := by
      rw [begun]
      exact .refl grounded
    exact (courses_maintain repairs begins courses : session.bindings.Maintains after.bindings)

end Session

/-- The record that a harvest's run leaves, if the run succeeds, meets the demands that the record
it began with met. -/
theorem Harvester.runWith_maintains {harvester : Harvester σ} {recipe : Recipe} {b record : PageBindings}
    {here after : σ} {result : RunResult}
    (ran : harvester.runWith recipe b here = (.ok (result, record), after))
    (fine : result.error = none) (grounded : b.Grounded) : b.Maintains record := by
  rw [runWith_apply] at ran
  rcases ended : harvester.ran recipe b here with ⟨fault | ended, final⟩
  · rw [ended] at ran
    cases ran
  · rw [ended] at ran
    cases ran
    exact @Session.execute_maintains _ harvester.host harvester.advisor rfl _ _ _ _ ended fine grounded

end Gleaner
