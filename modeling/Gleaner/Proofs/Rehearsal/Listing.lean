import Gleaner.Proofs.Rehearsal.Taking
import Mathlib.Data.List.Nodup

/-!
# Taking the items in sight

On a fair stage the saved items are always the first ones of the list. Going through the list
passes over those and saves the rest that is visible, until there are enough.
-/

set_option autoImplicit false

namespace Gleaner

open Rehearsal

/-- Settings that a run can finish with: every count allows for a first time, and the times are
numbers of seconds that a clock can tell. -/
structure RunSettings.Usable (settings : RunSettings) : Prop where
  tries : 1 ≤ settings.extractRetries
  rounds : 1 ≤ settings.maxRepeatIterations
  stale : 1 ≤ settings.noNewItemsLimit
  waits : ∃ seconds, (Span.ofMs settings.waitTimeoutMs).toSeconds = .ok seconds
  settles : ∃ seconds, (Span.ofMs settings.detailsSettleMs).toSeconds = .ok seconds

/-- Where a run stands on a stage: so many items are in sight, exactly the first `done` of the stage
are saved, and the details are those of the last one. The run has stopped if and only if these are
enough. -/
structure Stands (stage : Stage) (b : PageBindings) (visible most done : Nat)
    (session : Session World) : Prop where
  settled : session.Settled most
  bindings : session.bindings = b
  maxItems : session.maxItems = some most
  untimed : session.deadline = none
  inTime : session.timedOut = false
  shows : ∃ active, Shows stage visible active session.world ∧
    (0 < done → active = some (done - 1))
  saved : session.run.collected.map (·.id) = stage.ids.take done
  inSight : done ≤ visible
  listed : visible ≤ stage.items.length
  goes : session.run.stopped = false ∧ done < most ∨ session.run.stopped = true ∧ done = most

variable {stage : Stage} {b : PageBindings} {visible most done : Nat} {session : Session World}

namespace Stands

theorem checkTime (stands : Stands stage b visible most done session) :
    session.checkTime = session :=
  Session.checkTime_untimed stands.untimed

theorem collected_length (stands : Stands stage b visible most done session) :
    session.run.collected.length = done := by
  have lengths := congrArg List.length stands.saved
  have fits : done ≤ stage.items.length := Nat.le_trans stands.inSight stands.listed
  rw [List.length_map, List.length_take, Stage.ids, List.length_map] at lengths
  omega

/-- While the run goes on, what is done is what is saved. -/
theorem even (stands : Stands stage b visible most done session)
    (going : session.run.stopped = false) : session.Even most := by
  rcases stands.settled with even | full
  · exact even
  · rw [full.stopped] at going
    cases going

theorem processed (stands : Stands stage b visible most done session)
    (going : session.run.stopped = false) : session.run.processed = stage.ids.take done :=
  (stands.even going).saved.symm.trans stands.saved

theorem room (stands : Stands stage b visible most done session)
    (going : session.run.stopped = false) : done < most := by
  rcases stands.goes with ⟨_, room⟩ | ⟨stopped, _⟩
  · exact room
  · rw [stopped] at going
    cases going

/-- A run that only looks, or brings more items into sight, stands where it stood. -/
theorem onward {run : Run} {world : World} {more : Nat} {active : Option Nat}
    (stands : Stands stage b visible most done session)
    (same : session.SameLedger { session with run, world })
    (stopped : run.stopped = session.run.stopped) (grows : visible ≤ more)
    (listed : more ≤ stage.items.length)
    (shows : Shows stage more active world) (last : 0 < done → active = some (done - 1)) :
    Stands stage b more most done { session with run, world } := by
  refine ⟨Session.settled_lasting most _ _ same stands.settled, stands.bindings, stands.maxItems,
    stands.untimed, stands.inTime, ⟨active, shows, last⟩, ?_,
    Nat.le_trans stands.inSight grows, listed, ?_⟩
  · show run.collected.map (·.id) = _
    rw [same.collected]
    exact stands.saved
  · show run.stopped = false ∧ _ ∨ run.stopped = true ∧ _
    rw [stopped]
    exact stands.goes

theorem counted (stands : Stands stage b visible most done session) :
    Stands stage b visible most done session.counted := by
  obtain ⟨active, shows, last⟩ := stands.shows
  exact stands.onward ⟨rfl, rfl, rfl, id, rfl⟩ rfl (Nat.le_refl _) stands.listed shows last

/-- A run that has stopped, or has taken everything in sight, has as much as there is room for. -/
theorem ended (stands : Stands stage b visible most done session)
    (all : session.run.stopped = false → done = visible) :
    Stands stage b visible most (min visible most) session := by
  have enough : done = min visible most := by
    rcases stands.goes with ⟨going, room⟩ | ⟨_, full⟩
    · have all := all going
      omega
    · have inSight := stands.inSight
      omega
  rw [← enough]
  exact stands

end Stands

/-!
## Which items are passed over
-/

theorem Rehearsal.Stage.ids_nodup (fair : stage.Fair) : stage.ids.Nodup := by
  have same : stage.ids = (stage.items.map (·.id)).map (·.getD "") := by
    rw [Stage.ids, List.map_map]
    rfl
  rw [same]
  refine List.Nodup.map_on ?_ fair.distinct
  intro one oneIn another anotherIn equal
  obtain ⟨item, among, rfl⟩ := List.mem_map.mp oneIn
  obtain ⟨other, otherAmong, rfl⟩ := List.mem_map.mp anotherIn
  obtain ⟨id, named, _⟩ := fair.named item among
  obtain ⟨otherId, otherNamed, _⟩ := fair.named other otherAmong
  rw [named, otherNamed] at equal ⊢
  exact congrArg some equal

theorem Rehearsal.Stage.ids_getElem? {index : Nat} {item : StageItem}
    (found : stage.items[index]? = some item) : stage.ids[index]? = some (item.id.getD "") := by
  rw [Stage.ids, List.getElem?_map, found]
  rfl

/-- The id of an item is among the first ids only when the item is. -/
theorem Rehearsal.Stage.id_mem_take {index : Nat} {item : StageItem} (fair : stage.Fair)
    (found : stage.items[index]? = some item) :
    item.id.getD "" ∈ stage.ids.take done ↔ index < done := by
  have listed := Stage.ids_getElem? found
  obtain ⟨inRange, at_index⟩ := List.getElem?_eq_some_iff.mp listed
  constructor
  · intro among
    obtain ⟨place, bound, same⟩ := List.mem_take_iff_getElem.mp among
    rw [← at_index] at same
    have equal := (stage.ids_nodup fair).getElem_inj_iff.mp same
    omega
  · intro early
    exact List.mem_take_iff_getElem.mpr ⟨index, by omega, at_index⟩

theorem Rehearsal.Stage.cards_length :
    (stage.cards visible).length = min visible stage.items.length := by
  simp [Stage.cards]

theorem Rehearsal.Stage.cards_drop {first : Nat} {item : StageItem}
    (found : stage.items[first]? = some item) (inSight : first < visible) :
    (stage.cards visible).drop first = item.card first :: (stage.cards visible).drop (first + 1) := by
  have card : (stage.cards visible)[first]? = some (item.card first) := by
    simp [Stage.cards, inSight, found]
  obtain ⟨inRange, same⟩ := List.getElem?_eq_some_iff.mp card
  rw [← same]
  exact List.drop_eq_getElem_cons inRange

/-!
## Taking the rest
-/

section Rest

variable {settings : RunSettings} {repairer : Option (Repairer World)} (usable : settings.Usable)
  (fair : stage.Fair) (fits : stage.Fits b)

include usable fair fits

/-- The next item is saved, and the run stands one item further. -/
theorem Stands.takeItem {item : StageItem}
    (stands : Stands stage b visible most done session) (going : session.run.stopped = false)
    (found : stage.items[done]? = some item) (inSight : done < visible) :
    Stands stage b visible most (done + 1)
      (untilFailure (Command.steps (host settings repairer)
        [.click, .waitFor .details, .extractDetails none, .save "job", .markDone])
        (session.atItem (stage.current item done))).2 := by
  have fitting : stage.Fits (session.atItem (stage.current item done)).bindings := by
    show stage.Fits session.bindings
    rw [stands.bindings]
    exact fits
  have room : session.run.collected.length < most := by
    rw [stands.collected_length]
    exact stands.room going
  have fresh : item.id.getD "" ∉ session.run.processed := by
    rw [stands.processed going, Stage.id_mem_take fair found]
    exact Nat.lt_irrefl done
  obtain ⟨maxItems, saved, distinct, counted, bound⟩ := stands.even going
  have working : (session.atItem (stage.current item done)).Working most (item.id.getD "") :=
    ⟨⟨maxItems, saved, distinct, counted, bound⟩, ⟨stage.current item done, rfl, rfl⟩, fresh, going,
      rfl⟩
  have settled := takeItem_settled (host settings repairer) working
  obtain ⟨active, shows, _⟩ := stands.shows
  obtain ⟨run, world, ends, shows, ids, goes⟩ := @takeItem_takes _ _ settings repairer
    (session.atItem (stage.current item done)) _ _ item fair fitting found maxItems room rfl going rfl
    usable.tries _ shows inSight rfl usable.waits usable.settles
  have ids : run.collected.map (·.id) = stage.ids.take (done + 1) := by
    rw [ids, List.take_add_one, Stage.ids_getElem? found]
    exact congrArg (· ++ _) stands.saved
  have length : run.collected.length = done + 1 := by
    have lengths := congrArg List.length ids
    have fits := Nat.lt_of_lt_of_le inSight stands.listed
    rw [List.length_map, List.length_take, Stage.ids, List.length_map] at lengths
    omega
  rw [ends] at settled ⊢
  rw [length] at goes
  exact ⟨settled, stands.bindings, maxItems, stands.untimed, stands.inTime,
    ⟨_, shows, fun _ => rfl⟩, ids, inSight, stands.listed, goes⟩

/-- From any place up to the last saved item on, the rest of the list is taken as far as there is
room. -/
theorem Stands.forItems {first : Nat} (handled skipped : Nat)
    (stands : Stands stage b visible most done session)
    (reached : session.run.stopped = false → first ≤ done) :
    ∃ answer final, Interp.forItems true (Command.steps (host settings repairer)
        [.click, .waitFor .details, .extractDetails none, .save "job", .markDone])
        handled skipped ((stage.cards visible).drop first) session = (.ok answer, final) ∧
      Stands stage b visible most (min visible most) final := by
  induction left : visible - first generalizing first done session handled skipped with
  | zero =>
      have none : (stage.cards visible).drop first = [] := by
        apply List.drop_eq_nil_of_le
        rw [Stage.cards_length]
        omega
      rw [none]
      refine ⟨_, session, rfl, stands.ended fun going => ?_⟩
      have inSight := stands.inSight
      have reached := reached going
      omega
  | succ left ih =>
      have inSight : first < visible := by omega
      have fit := Nat.lt_of_lt_of_le inSight stands.listed
      obtain ⟨item, found⟩ : ∃ item, stage.items[first]? = some item :=
        ⟨_, List.getElem?_eq_getElem fit⟩
      have current : session.bindings.toCurrent (item.card first) =
          .ok (stage.current item first) := by
        rw [stands.bindings]
        exact Stage.toCurrent_card fair fits (List.mem_of_getElem? found) first
      rw [Stage.cards_drop found inSight, Interp.forItems_cons, stands.checkTime, current]
      cases stopped : session.run.stopped with
      | true =>
          refine ⟨_, session, rfl, stands.ended fun going => ?_⟩
          rw [stopped] at going
          cases going
      | false =>
          have reached := reached stopped
          have processed : session.run.isProcessed (stage.current item first).id =
              decide (first < done) := by
            rw [Run.isProcessed, stands.processed stopped, List.contains_eq_mem]
            exact decide_eq_decide.mpr (Stage.id_mem_take fair found)
          simp only [Bool.false_eq_true, ↓reduceIte, Bool.true_and, processed, decide_eq_true_eq]
          split
          next early =>
            exact ih _ _ stands (fun _ => early) (by omega)
          next next =>
            have here : first = done := by omega
            subst here
            exact ih _ _ (stands.takeItem usable fair fits stopped found inSight)
              (fun _ => Nat.le_refl _) (by omega)

/-- The command for the items takes what is in sight, as far as there is room. -/
theorem Stands.takeItems (stands : Stands stage b visible most done session) :
    Stands stage b visible most (min visible most)
      (Template.takeItems.run (host settings repairer) session).2 := by
  let body := Command.steps (host settings repairer)
    [.click, .waitFor .details, .extractDetails none, .save "job", .markDone]
  show Stands stage b visible most (min visible most)
    (report (Interp.forEachItem (host settings repairer) true body) session).2
  obtain ⟨active, shows, last⟩ := stands.counted.shows
  have fitting : stage.Fits session.counted.bindings := by
    rw [stands.counted.bindings]
    exact fits
  obtain ⟨world, listed, kept⟩ := @Interp.listItems_gives _ _ _ _ settings repairer shows fair
    fitting
  have after : Stands stage b visible most done { session.counted with world } :=
    stands.counted.onward ⟨rfl, rfl, rfl, id, rfl⟩ rfl (Nat.le_refl _) stands.listed kept last
  rw [report_apply]
  show Stands stage b visible most (min visible most)
    (Interp.forEachItem (host settings repairer) true body session.counted).2
  rw [Interp.forEachItem_apply, listed]
  dsimp only
  split
  next none =>
    have length := congrArg List.length none
    rw [Stage.cards_length, List.length_nil] at length
    have inSight := stands.inSight
    have listed := stands.listed
    refine after.ended fun _ => ?_
    omega
  next =>
    obtain ⟨answer, final, ran, ended⟩ := @Stands.forItems _ _ _ _ _ _ _ repairer usable fair fits 0
      0 0 after fun _ => Nat.zero_le _
    rw [List.drop_zero] at ran
    rw [ran]
    obtain ⟨active, shows, last⟩ := ended.shows
    exact ended.onward ⟨rfl, rfl, rfl, id, rfl⟩ rfl (Nat.le_refl _) ended.listed shows last

end Rest

end Gleaner
