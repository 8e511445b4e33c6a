import Gleaner.Proofs.Rehearsal.Calm
import Gleaner.Proofs.Run.Details
import Gleaner.Proofs.Run.Repairs

/-!
# A patch that works brings the command through

The key that a command depends on, what a patch makes of that key, and what the command reads go
together: when the value of a patch works on the page on its own, the patch is accepted and the
command succeeds with it, whatever the other bindings are and wherever the run stands.
-/

set_option autoImplicit false

namespace Gleaner

variable {σ : Type}

/-- What a wait looks for, if the bindings say so. -/
def PageStates.awaited? (states : PageStates) : WaitTarget → Option StateCondition
  | .page => states.pageLoaded
  | .list => states.listLoaded
  | .listUpdate => states.listUpdated
  | .details => states.detailsLoaded

/-- The place that bindings have for a name to go to; the last of several elements of a name. -/
def PageBindings.placeFor? (b : PageBindings) (name : String) : Option String :=
  match name with
  | "searchBox" => b.searchBox
  | "list" => some b.list
  | "details" => b.detailsPanel
  | _ => Entries.find? name (Entries.ofPairs b.elements)

namespace Interp

variable (host : Host σ)

/-- Waits for the end of loading, if the bindings say how to see it. -/
def waitOutLoading (b : PageBindings) : Interp σ Unit := do
  if let some loading := b.states.loading then
    let gone := return !(← holds host loading)
    discard (poll host gone host.settings.loadingTimeoutMs)

/-- Reads selectors one after another. -/
def readEach : List String → Interp σ (List (String × List String))
  | [] => return []
  | selector :: rest => do
      let texts ← act (host.page.texts selector)
      return (selector, texts) :: (← readEach rest)

end Interp

/-- The session in which a command begins once more, with patched bindings. -/
def Session.retrying (bindings : PageBindings) (session : Session σ) : Session σ :=
  Session.counted (Session.fixed { session with bindings })

/-- The value of a patch, read as a record of its own, works for a command that begins: what the
command asks of the page with that value is there, and nothing that it asks for is a fault. -/
inductive Mends (host : Host σ) (alone : PageBindings) (retry : Session σ) : Command → Prop where
  | awaited {target : WaitTarget} {condition : StateCondition} {deadline : Deadline σ}
      {seen : Session σ} :
      target ≠ .details → alone.states.awaited? target = some condition →
      host.clock.deadline host.settings.waitTimeoutMs retry.world = .ok deadline →
      Interp.holds host condition retry = (.ok true, seen) →
      Mends host alone retry (.waitFor target)
  | inPlace {world : σ} :
      retry.bindings.clickBehavior = some .inPlace →
      host.clock.pause (.ofMs host.settings.inlineDetailsWaitMs) retry.world = (.ok (), world) →
      Mends host alone retry (.waitFor .details)
  | shown {condition : StateCondition} {deadline : Deadline σ} {calm seen : Session σ} {world : σ} :
      retry.bindings.clickBehavior ≠ some .inPlace →
      alone.states.awaited? .details = some condition →
      Interp.waitOutLoading host retry.bindings retry = (.ok (), calm) →
      host.clock.deadline host.settings.waitTimeoutMs calm.world = .ok deadline →
      Interp.holds host condition calm = (.ok true, seen) →
      host.clock.pause (.ofMs host.settings.detailsSettleMs) seen.world = (.ok (), world) →
      Mends host alone retry (.waitFor .details)
  | focused {name selector : String} {world : σ} :
      alone.placeFor? name = some selector → selector ≠ "" →
      host.page.isPresent selector retry.world = (.ok true, world) →
      Mends host alone retry (.goTo name)
  | filterFocused {name : String} {filter : FilterBinding} {world : σ} :
      Entries.find? name (Entries.ofPairs alone.filters) = some filter →
      host.page.isPresent filter.selector retry.world = (.ok true, world) →
      Mends host alone retry (.goToFilter name)
  | entered {first : ListItem} {rest : List ListItem} {id : String} {world : σ} :
      Text.isBlankText alone.listItem = false →
      host.page.items alone.listItem (retry.bindings.itemId.bind (·.selector))
        (retry.bindings.itemId.bind fun rule => if rule.source = .attr then rule.attrName else none)
        retry.world = (.ok (first :: rest), world) →
      retry.bindings.itemIdOf first = .ok id →
      Mends host alone retry (.goToItem .first)
  | extracted {given : Option (List String)} {selector : String}
      {read : List (String × List String)} {seen : Session σ} :
      given.getD [] = [] → retry.bindings.clickBehavior ≠ some .inPlace →
      1 ≤ host.settings.extractRetries → selector ∈ alone.detailsContent →
      Interp.readEach host retry.bindings.detailsContent retry = (.ok read, seen) →
      (∀ texts, (selector, texts) ∈ read → ∃ text ∈ texts, Text.isBlankText text = false) →
      Mends host alone retry (.extractDetails given)

/-!
## What a patched record has
-/

namespace PageBindings

variable {now : Float} {key : String} {b alone : PageBindings}

theorem mem_distinct {texts : List String} {text : String} : text ∈ distinct texts ↔ text ∈ texts := by
  have gathered (seen : List String) : text ∈ texts.foldl (fun seen text =>
      if seen.contains text then seen else seen ++ [text]) seen ↔ text ∈ seen ∨ text ∈ texts := by
    induction texts generalizing seen with
    | nil => simp
    | cons first rest ih =>
        rw [List.foldl_cons, ih, List.mem_cons]
        by_cases known : seen.contains first = true
        · rw [if_pos known]
          rw [List.contains_iff_mem] at known
          constructor
          · exact .imp_right .inr
          · rintro (old | rfl | new)
            · exact .inl old
            · exact .inl known
            · exact .inr new
        · rw [if_neg known, List.mem_append, List.mem_singleton, or_assoc]
  exact (gathered []).trans (by simp)

theorem awaited?_amend {target : WaitTarget}
    (keyed : (Command.waitFor target).bindingKey? = some key) :
    (b.amend now key alone).states.awaited? target = alone.states.awaited? target := by
  cases target <;> cases keyed <;> rfl

/-- What is found in the elements of the value is found in the patched ones. -/
theorem elements_amend {name selector : String}
    (found : Entries.find? name (Entries.ofPairs alone.elements) = some selector) :
    Entries.find? name (b.amend now "ELEMENTS" alone).elements = some selector := by
  show Entries.find? name (Entries.overlay b.elements alone.elements) = _
  rw [Entries.find?_overlay, found, Option.some_or]

theorem bound_of_place {place : Option String} {selector : String} {fault : Fault}
    (placed : place = some selector) (named : selector ≠ "") :
    (match place.getD "" with
      | "" => .error fault
      | text => .ok text : Except Fault String) = .ok selector := by
  rw [placed, Option.getD_some]
  split
  · exact absurd rfl named
  · rfl

theorem focusSelector_amend {name selector : String}
    (keyed : (Command.goTo name).bindingKey? = some key)
    (placed : alone.placeFor? name = some selector) (named : selector ≠ "") :
    Interp.focusSelector (b.amend now key alone) name = .ok selector := by
  by_cases searchBox : name = "searchBox"
  · subst searchBox
    cases keyed
    exact bound_of_place placed named
  by_cases list : name = "list"
  · subst list
    cases keyed
    exact bound_of_place (show some alone.list = some selector from placed) named
  by_cases details : name = "details"
  · subst details
    cases keyed
    exact bound_of_place placed named
  have elements : key = "ELEMENTS" := by
    simpa [Command.bindingKey?, searchBox, list, details] using keyed.symm
  have found : Entries.find? name (Entries.ofPairs alone.elements) = some selector := by
    simpa [placeFor?, searchBox, list, details] using placed
  subst elements
  simp only [Interp.focusSelector, elements_amend found, Option.getD_some]

theorem filterSelector_amend {name : String} {filter : FilterBinding}
    (found : Entries.find? name (Entries.ofPairs alone.filters) = some filter) :
    Interp.filterSelector (b.amend now "FILTERS" alone) name = .ok filter.selector := by
  have merged : Entries.find? name (b.amend now "FILTERS" alone).filters = some filter := by
    show Entries.find? name (Entries.overlay b.filters alone.filters) = _
    rw [Entries.find?_overlay, found, Option.some_or]
  simp only [Interp.filterSelector, merged]

theorem mem_detailsContent_amend {selector : String} (found : selector ∈ alone.detailsContent) :
    selector ∈ (b.amend now "DETAILS_CONTENT" alone).detailsContent :=
  mem_distinct.mpr (List.mem_append_left _ found)

/-- Where details are not shown in place, the selectors for them are read first. -/
theorem detailGroups_of_content {given : Option (List String)} (none : given.getD [] = [])
    (outside : b.clickBehavior ≠ some .inPlace) (content : b.detailsContent ≠ []) :
    ∃ rest, b.detailGroups given = b.detailsContent :: rest := by
  have groups : b.detailGroups given = b.detailGroups (some []) := by
    rcases given with _ | _ | _
    · rfl
    · rfl
    · cases none
  rw [groups]
  unfold detailGroups
  dsimp only
  rw [if_neg outside, List.filter_cons, if_pos (by simpa using content)]
  exact ⟨_, rfl⟩

end PageBindings

/-!
## The command once more
-/

namespace Interp

variable (host : Host σ) {session after : Session σ}

theorem waitUntil_apply_of_holds {condition : StateCondition} {deadline : Deadline σ}
    (inRange : host.clock.deadline host.settings.waitTimeoutMs session.world = .ok deadline)
    (held : holds host condition session = (.ok true, after)) :
    waitUntil host condition session = (.ok (), after) := by
  rw [waitUntil, bind_apply, poll_apply_of_check host inRange held]
  rfl

theorem focusOn_apply_of_present {selector : String} {world : σ}
    (present : host.page.isPresent selector session.world = (.ok true, world)) :
    focusOn host selector session = (.ok (.focused selector),
      { session with run := { session.run with focus := some (.selector selector) }, world }) := by
  rw [focusOn, bind_apply, act_apply, present]
  rfl

/-- The texts of a group are those of its selectors, one after another. -/
theorem readGroup_apply_of_each {group : List String} {read : List (String × List String)}
    (each : readEach host group session = (.ok read, after)) :
    readGroup host group session = (.ok (read.flatMap (·.2)), after) ∧ read.map (·.1) = group := by
  induction group generalizing session read with
  | nil =>
      cases each
      exact ⟨rfl, rfl⟩
  | cons selector rest ih =>
      rcases asked : act (host.page.texts selector) session with ⟨fault | texts, between⟩
      · rw [readEach, bind_apply, asked] at each
        cases each
      · rcases others : readEach host rest between with ⟨fault | more, final⟩
        · simp only [readEach, bind_apply, asked, others] at each
          cases each
        · simp only [readEach, bind_apply, asked, others] at each
          cases each
          obtain ⟨group, keys⟩ := ih others
          simp only [readGroup, bind_apply, asked, group]
          exact ⟨rfl, congrArg (selector :: ·) keys⟩

theorem waitForDetails_inPlace {world : σ} (b : PageBindings) (inPlace : b.clickBehavior = some .inPlace)
    (paused : host.clock.pause (.ofMs host.settings.inlineDetailsWaitMs) session.world =
      (.ok (), world)) :
    waitForDetails host b session = (.ok .waitSkipped, { session with world }) := by
  rw [waitForDetails, if_pos inPlace, bind_apply, act_apply, paused]
  rfl

theorem waitForDetails_shown {b : PageBindings} {condition : StateCondition}
    {deadline : Deadline σ} {calm seen : Session σ} {world : σ}
    (outside : b.clickBehavior ≠ some .inPlace) (awaited : b.states.detailsLoaded = some condition)
    (calmed : waitOutLoading host b session = (.ok (), calm))
    (inRange : host.clock.deadline host.settings.waitTimeoutMs calm.world = .ok deadline)
    (held : holds host condition calm = (.ok true, seen))
    (paused : host.clock.pause (.ofMs host.settings.detailsSettleMs) seen.world = (.ok (), world)) :
    waitForDetails host b session = (.ok (.awaited .details), { seen with world }) := by
  have shown (panel : String) : (do
      waitUntil host (b.states.detailsLoaded.getD (.present panel))
      act (host.clock.pause (.ofMs host.settings.detailsSettleMs))
      return .awaited .details : Interp σ Report) calm =
        (.ok (.awaited .details), { seen with world }) := by
    rw [awaited, Option.getD_some, bind_apply, waitUntil_apply_of_holds host inRange held]
    simp only [bind_apply, act_apply, paused]
    rfl
  unfold waitOutLoading at calmed
  unfold waitForDetails
  rw [if_neg outside]
  cases loading : b.states.loading with
  | none =>
      rw [loading] at calmed
      cases calmed
      exact shown _
  | some condition =>
      rw [loading] at calmed
      dsimp only at calmed ⊢
      rw [bind_apply, calmed]
      exact shown _

variable {now : Float} {key : String} {b alone : PageBindings} {retry : Session σ}
  (patched : retry.bindings = b.amend now key alone)

include patched

theorem waitFor_mended {target : WaitTarget} (keyed : (Command.waitFor target).bindingKey? = some key)
    (mends : Mends host alone retry (.waitFor target)) :
    ∃ report, (waitFor host target retry).1 = .ok report := by
  have awaited := (congrArg (fun b => b.states.awaited? target) patched).trans
    (PageBindings.awaited?_amend keyed)
  cases mends with
  | @awaited _ condition deadline seen plain found inRange held =>
      have waited := waitUntil_apply_of_holds host inRange held
      have found := awaited.trans found
      cases target with
      | page =>
          have found : retry.bindings.states.pageLoaded = some condition := found
          simp only [waitFor, bind_apply, bindings_apply, found, Option.getD_some, waited]
          exact ⟨_, rfl⟩
      | list =>
          have found : retry.bindings.states.listLoaded = some condition := found
          simp only [waitFor, bind_apply, bindings_apply, found, waited]
          exact ⟨_, rfl⟩
      | listUpdate =>
          have found : retry.bindings.states.listUpdated = some condition := found
          simp only [waitFor, bind_apply, bindings_apply, found, waited]
          exact ⟨_, rfl⟩
      | details => exact absurd rfl plain
  | inPlace shows paused =>
      have ran := waitForDetails_inPlace host retry.bindings shows paused
      simp only [waitFor, bind_apply, bindings_apply, ran]
      exact ⟨_, rfl⟩
  | shown outside found calmed inRange held paused =>
      have ran := waitForDetails_shown host outside (awaited.trans found) calmed inRange held paused
      simp only [waitFor, bind_apply, bindings_apply, ran]
      exact ⟨_, rfl⟩

theorem goTo_mended {name : String} (keyed : (Command.goTo name).bindingKey? = some key)
    (mends : Mends host alone retry (.goTo name)) :
    ∃ report, (goTo host name retry).1 = .ok report := by
  cases mends with
  | @focused _ selector world placed named present =>
      have selected : focusSelector retry.bindings name = .ok selector := by
        rw [patched]
        exact PageBindings.focusSelector_amend keyed placed named
      simp only [goTo, bind_apply, bindings_apply, liftExcept_apply, selected,
        focusOn_apply_of_present host present]
      exact ⟨_, rfl⟩

theorem goToFilter_mended {name : String} (keyed : (Command.goToFilter name).bindingKey? = some key)
    (mends : Mends host alone retry (.goToFilter name)) :
    ∃ report, (goToFilter host name retry).1 = .ok report := by
  cases keyed
  cases mends with
  | @filterFocused _ filter world found present =>
      have selected : filterSelector retry.bindings name = .ok filter.selector := by
        rw [patched]
        exact PageBindings.filterSelector_amend found
      simp only [goToFilter, bind_apply, bindings_apply, liftExcept_apply, selected,
        focusOn_apply_of_present host present]
      exact ⟨_, rfl⟩

theorem goToItem_mended {which : ItemChoice} (keyed : (Command.goToItem which).bindingKey? = some key)
    (mends : Mends host alone retry (.goToItem which)) :
    ∃ report, (goToItem host which retry).1 = .ok report := by
  cases keyed
  cases mends with
  | @entered first rest id world named queried computed =>
      have listItem : retry.bindings.listItem = alone.listItem := by rw [patched]; rfl
      have selector : retry.bindings.itemSelector = .ok alone.listItem := by
        rw [PageBindings.itemSelector, listItem, named]
        rfl
      have listed : listItems host retry = (.ok (first :: rest), { retry with world }) := by
        simp only [listItems, bind_apply, bindings_apply, liftExcept_apply, selector, act_apply,
          queried]
      have current : ∃ current, retry.bindings.toCurrent first = .ok current := by
        unfold PageBindings.toCurrent
        rw [computed]
        exact ⟨_, rfl⟩
      obtain ⟨current, chosen⟩ := current
      simp only [goToItem, bind_apply, listed, chooseItem, bindings_apply, run_apply,
        liftExcept_apply, chosen]
      exact ⟨_, rfl⟩

theorem extractDetails_mended {given : Option (List String)}
    (keyed : (Command.extractDetails given).bindingKey? = some key)
    (mends : Mends host alone retry (.extractDetails given)) :
    ∃ report, (extractDetails host given retry).1 = .ok report := by
  cases keyed
  cases mends with
  | @extracted _ selector read seen unnamed outside tries proposed each readable =>
      have among : selector ∈ retry.bindings.detailsContent := by
        rw [patched]
        exact PageBindings.mem_detailsContent_amend proposed
      obtain ⟨group, keys⟩ := readGroup_apply_of_each host each
      have content : joinTexts (read.flatMap (·.2)) ≠ "" := by
        obtain ⟨⟨_, texts⟩, found, rfl⟩ := List.mem_map.mp (keys ▸ among)
        obtain ⟨text, held, notBlank⟩ := readable texts found
        exact joinTexts_ne_empty ⟨text, List.mem_flatMap.mpr ⟨_, found, held⟩, notBlank⟩
      obtain ⟨rest, groups⟩ := PageBindings.detailGroups_of_content unnamed outside
        (List.ne_nil_of_mem among)
      obtain ⟨tries, enough⟩ : ∃ tries, host.settings.extractRetries = tries + 1 :=
        ⟨host.settings.extractRetries - 1, by omega⟩
      have patient : readPatiently host (retry.bindings.detailGroups given)
          host.settings.extractRetries retry = (.ok (joinTexts (read.flatMap (·.2))), seen) := by
        rw [groups, enough]
        exact readPatiently_apply_of_text host tries group content
      rw [extractDetails_apply_of_read host (by rw [groups]; exact List.cons_ne_nil _ _) patient
        content]
      exact ⟨_, rfl⟩

end Interp

section Retry

variable {host : Host σ} {now : Float} {key : String} {b alone : PageBindings}

/-- With a patch that mends it the command succeeds. -/
theorem Mends.run_ok {command : Command} {session : Session σ}
    (keyed : command.bindingKey? = some key) (patched : session.bindings = b.amend now key alone)
    (mends : Mends host alone session.counted command) :
    ∃ report, (command.run host session).1 = .ok report := by
  have ran {body : Interp σ Report} (succeeds : ∃ answer, (body session.counted).1 = .ok answer) :
      ∃ answer, (report body session).1 = .ok answer := by
    obtain ⟨answer, succeeded⟩ := succeeds
    exact ⟨answer, by rw [report_apply, succeeded]; rfl⟩
  have patched : session.counted.bindings = b.amend now key alone := patched
  cases command with
  | waitFor target => exact ran (Interp.waitFor_mended host patched keyed mends)
  | goTo name => exact ran (Interp.goTo_mended host patched keyed mends)
  | goToFilter name => exact ran (Interp.goToFilter_mended host patched keyed mends)
  | goToItem which => exact ran (Interp.goToItem_mended host patched keyed mends)
  | extractDetails given => exact ran (Interp.extractDetails_mended host patched keyed mends)
  | _ => cases keyed

end Retry

/-- Commands depend on keys that patches may change. -/
theorem Command.bindingKey?_settable {command : Command} {key : String}
    (keyed : command.bindingKey? = some key) :
    key ∈ PageBindings.wires ∧ BindingKey.isMeta key = false := by
  unfold bindingKey? at keyed
  split at keyed <;> cases keyed <;> decide

namespace Session

variable (host : Host σ)

theorem checkTime_stopped {session : Session σ} (going : session.run.stopped = false) :
    session.checkTime.run.stopped = session.deadline.any fun reached => reached session.world := by
  rcases session.checkTime_cases with ⟨stopped | early, same⟩ | ⟨⟨-, late⟩, same⟩
  · exact absurd stopped (Bool.eq_false_iff.mp going)
  · rw [same, going, early]
  · rw [same, late]

theorem checkTime_bindingFixes (session : Session σ) :
    session.checkTime.run.stats.bindingFixes = session.run.stats.bindingFixes := by
  rw [(Move.checkTime_collected session).2.1]

/-- A patch of the key that a failed command depends on, with a value that works on the page, is
accepted by whatever bindings there are; the command then succeeds, the fix is counted, and the
run goes on with the rest of the recipe unless its time is up. -/
theorem runAll_mended {command : Command} {rest : List Command} {session failed after : Session σ}
    {repairer : Repairer σ} {binding error : String} {raw : Fields} {value : Json}
    {earlier : Float} {alone : PageBindings}
    (going : session.checkTime.run.stopped = false)
    (ran : command.run host session.checkTime = (.failed error true, failed))
    (keyed : command.bindingKey? = some binding) (given : host.repairer = some repairer)
    (answered : observe (repairer (failed.request host command binding error))
      (domText host failed).2 = (.ok (some raw), after))
    (single : Patch.changes raw = [(binding, value)])
    (valid : PageBindings.ofFieldsOrFault earlier [(binding, value)] = .ok alone)
    (works : ∀ merged, after.bindings.merge (host.clock.time after.world) raw = .ok merged →
      Mends host alone (after.retrying merged) command) :
    ∃ merged report final,
      after.bindings.merge (host.clock.time after.world) raw = .ok merged ∧
      command.run host (fixed { after with bindings := merged }) = (.ok report, final) ∧
      runTop host command session.checkTime = (.ok report, final) ∧
      final.bindings = merged ∧
      final.run.stats.bindingFixes = session.run.stats.bindingFixes + 1 ∧
      runAll host (command :: rest) session = runAll host rest final ∧
      final.checkTime.run.stopped = final.deadline.any fun reached => reached final.world := by
  obtain ⟨known, settable⟩ := command.bindingKey?_settable keyed
  have merged : after.bindings.merge (host.clock.time after.world) raw =
      .ok (after.bindings.amend (host.clock.time after.world) binding alone) :=
    PageBindings.merge_of_change single known settable valid
  generalize same : after.bindings.amend (host.clock.time after.world) binding alone = record
    at merged
  have accepted : after.patch host.clock raw = .ok { after with bindings := record } := by
    rw [patch, merged]
    rfl
  have proposed : raw.isEmpty = false := by
    cases raw with
    | nil => cases single
    | cons => rfl
  obtain ⟨report, succeeded⟩ := Mends.run_ok keyed same.symm (works _ merged)
  rcases retried : command.run host (fixed { after with bindings := record }) with ⟨outcome, final⟩
  obtain rfl : outcome = .ok report := by
    rw [retried] at succeeded
    exact succeeded
  have top : runTop host command session.checkTime = (.ok report, final) := by
    rw [runTop_apply, ran]
    dsimp only
    rw [repairAndRetry_asked host keyed given, answered]
    simp only [settle, changesOf, proposed, accepted, retried]
    rfl
  -- Neither the two runs of the command nor the repairer has done more to the session than that.
  have asked := asked_of_failed host ran keyed given
  rw [answered] at asked
  obtain ⟨bindings, bindingFixes, stopped⟩ := command.run_of_key host (by rw [keyed]; rfl)
    (fixed { after with bindings := record })
  rw [retried] at bindings bindingFixes stopped
  refine ⟨record, report, final, merged, retried, top, bindings, ?_, ?_, checkTime_stopped ?_⟩
  · calc final.run.stats.bindingFixes
        = after.run.stats.bindingFixes + 1 := bindingFixes
      _ = session.run.stats.bindingFixes + 1 := by
        rw [asked.bindingFixes, checkTime_bindingFixes]
  · rw [runAll_cons, going, top]
    rfl
  · exact stopped.trans (asked.stopped.trans going)

end Session

/-!
## A list that has moved
-/

namespace Rehearsal

/-- A session whose page has some selectors, whose bindings name a list that is gone, and whose
repairer proposes a patch. -/
def repairing (selectors : Entries Int) (raw : Fields) : Session World :=
  Session.start clock { list := ".old", updatedAt := 0 }
    { stage := { selectors }, proposals := [.ok (some raw)] }

/-- A recipe of one command. -/
def oneCommand (command : Command) : Recipe :=
  { id := "recipe", commands := [command] }

/-- How a run of one command ends: its error, if it has one, and the number of fixes. -/
def endOf (command : Command) (session : Session World) : Option (Option String × Nat) :=
  (Session.execute (host {} (some repairer)) (oneCommand command) session).1.toOption.map
    fun result => (result.error, result.stats.bindingFixes)

end Rehearsal

open Rehearsal

/-- A patch that names the list, with blanks around its selector. -/
theorem runAll_mended_for_list :
    ∃ report final,
      Session.runTop (host {} (some repairer)) (.goTo "list")
        (repairing [("#list", 1)] [("LIST", .str " #list ")]) = (.ok report, final) ∧
      final.bindings.list = "#list" ∧ final.run.stats.bindingFixes = 1 := by
  obtain ⟨merged, report, final, accepted, _, top, bindings, fixes, _⟩ :=
    @Session.runAll_mended _ (host {} (some repairer)) (.goTo "list") []
      (repairing [("#list", 1)] [("LIST", .str " #list ")]) _ _ repairer "LIST" _ _
      (.str "#list") 0 _ rfl rfl rfl rfl rfl rfl rfl
      fun merged accepted => .focused rfl (by decide) rfl
  cases accepted
  exact ⟨report, final, top, by rw [bindings]; rfl, fixes⟩

/-- A patch with only blanks for the selector of the list. -/
def blankList : Session World :=
  repairing [("", 1)] [("LIST", .str " ")]

/-- A patch with blanks around the selector of a filter. -/
def paddedFilter : Session World :=
  repairing [(".date", 1)] [("FILTERS", .obj [("date", .obj [("selector", .str " .date ")])])]

/-- What is there once the blanks are taken away does not help when it is empty, nor when it
stands in an object, whose texts are taken as they are. -/
theorem runAll_unmended :
    (page.isPresent (Text.strip " ") blankList.world).1 = .ok true ∧
      endOf (.goTo "list") blankList =
        some (some "Command failed after fix: LIST not defined in bindings", 1) ∧
      (page.isPresent (Text.strip " .date ") paddedFilter.world).1 = .ok true ∧
      endOf (.goToFilter "date") paddedFilter =
        some (some "Command failed after fix: Element not found:  .date ", 1) := by
  refine ⟨rfl, ?_, rfl, ?_⟩
  · decide +kernel
  · decide +kernel

end Gleaner
