import Gleaner.Proofs.Run.Growth
import Gleaner.Proofs.Run.Turns

/-!
# Walks over a list

Going to the next item, over and over, comes to every item of a list once and then nowhere. Going to
an item that is not done and marking it as done comes once to every id that is in the list,
wherever it first occurs, whatever else is done meanwhile.
-/

set_option autoImplicit false

namespace Gleaner

variable {σ : Type}

/-!
## Without repetitions
-/

theorem nodup_eraseDups (ids : List String) : ids.eraseDups.Nodup := by
  cases ids with
  | nil => exact List.nodup_nil
  | cons first rest =>
      rw [List.eraseDups_cons]
      refine List.nodup_cons.mpr ⟨fun again => ?_, nodup_eraseDups _⟩
      obtain ⟨-, differs⟩ := List.mem_filter.mp (List.mem_eraseDups.mp again)
      simp at differs
termination_by ids.length
decreasing_by exact Nat.lt_succ_of_le (List.length_filter_le _ _)

/-- Without repetitions the first one of a kind is the same. -/
theorem find?_eraseDups (kind : String → Bool) (ids : List String) :
    ids.eraseDups.find? kind = ids.find? kind := by
  cases ids with
  | nil => rfl
  | cons first rest =>
      rw [List.eraseDups_cons, List.find?_cons, List.find?_cons, find?_eraseDups kind]
      cases chosen : kind first with
      | true => rfl
      | false =>
          -- What equals the first one is not of the kind either.
          dsimp only
          rw [List.find?_filter]
          congr 1
          funext id
          by_cases same : id = first
          · subst same
            simp [chosen]
          · simp [same]
termination_by ids.length
decreasing_by exact Nat.lt_succ_of_le (List.length_filter_le _ _)

theorem find?_not_mem_take {ids : List String} (once : ids.Nodup) (count : Nat) :
    (ids.find? fun id => !(ids.take count).contains id) = ids[count]? := by
  have split : ids.take count ++ ids.drop count = ids := List.take_append_drop count ids
  have passed : ((ids.take count).find? fun id => !(ids.take count).contains id) = none := by
    refine List.find?_eq_none.mpr fun id among => ?_
    simpa using among
  have apart := List.disjoint_of_nodup_append (split.symm ▸ once)
  calc (ids.find? fun id => !(ids.take count).contains id)
    _ = ((ids.take count ++ ids.drop count).find? fun id => !(ids.take count).contains id) := by
      rw [split]
    _ = (ids.drop count).head? := by
      rw [List.find?_append, passed, Option.none_or]
      cases left : ids.drop count with
      | nil => rfl
      | cons id rest =>
          have fresh : id ∉ ids.take count :=
            fun among => apart among (left.symm ▸ List.mem_cons_self)
          rw [List.find?_cons]
          simp [fresh]
    _ = ids[count]? := List.head?_drop

/-- The first id that is not among the first distinct ones is the next distinct one. -/
theorem find?_undone (ids : List String) (count : Nat) :
    (ids.find? fun id => !(ids.eraseDups.take count).contains id) = ids.eraseDups[count]? := by
  rw [← find?_eraseDups, find?_not_mem_take (nodup_eraseDups ids)]

/-!
## Items and their ids
-/

namespace PageBindings

/-- An item as the current one, with its id. -/
def currentOf (b : PageBindings) (item : ListItem) (id : String) : CurrentItem :=
  { id, index := item.index, ref := .indexed b.listItem item.index, text := item.text
    href := item.href }

/-- The items of a list know their places, and their ids can be told. -/
structure Numbers (b : PageBindings) (items : List ListItem) (ids : List String) : Prop where
  placed : ∀ (place : Nat) (item : ListItem), items[place]? = some item → item.index = place
  named : List.Forall₂ (fun item id => b.itemIdOf item = .ok id) items ids

variable {b : PageBindings} {items : List ListItem} {ids : List String}

theorem toCurrent_of_id {item : ListItem} {id : String} (named : b.itemIdOf item = .ok id) :
    b.toCurrent item = .ok (b.currentOf item id) := by
  rw [toCurrent, named]
  rfl

theorem firstUnprocessed_none {run : Run}
    (named : List.Forall₂ (fun item id => b.itemIdOf item = .ok id) items ids)
    (done : (ids.find? fun id => !run.isProcessed id) = none) :
    b.firstUnprocessed run items = .ok none := by
  induction named with
  | nil => rfl
  | @cons item id _ _ first _ ih =>
      rw [List.find?_cons] at done
      cases processed : run.isProcessed id with
      | false => simp [processed] at done
      | true =>
          simp only [processed, Bool.not_true] at done
          rw [firstUnprocessed, toCurrent_of_id first]
          exact (if_pos processed).trans (ih done)

theorem firstUnprocessed_some {run : Run} {id : String}
    (named : List.Forall₂ (fun item id => b.itemIdOf item = .ok id) items ids)
    (found : (ids.find? fun id => !run.isProcessed id) = some id) :
    ∃ item, items[ids.idxOf id]? = some item ∧
      b.firstUnprocessed run items = .ok (some (b.currentOf item id)) := by
  induction named with
  | nil => cases found
  | @cons item other _ rest first _ ih =>
      have undone : run.isProcessed id = false := by simpa using List.find?_some found
      rw [List.find?_cons] at found
      cases processed : run.isProcessed other with
      | false =>
          simp only [processed, Bool.not_false, Option.some.injEq] at found
          subst found
          refine ⟨item, by simp, ?_⟩
          rw [firstUnprocessed, toCurrent_of_id first]
          exact if_neg (Bool.eq_false_iff.mp processed)
      | true =>
          simp only [processed, Bool.not_true] at found
          obtain ⟨chosen, there, taken⟩ := ih found
          have differs : other ≠ id := by
            rintro rfl
            rw [processed] at undone
            cases undone
          refine ⟨chosen, ?_, ?_⟩
          · rw [List.idxOf_cons_ne rest differs]
            exact there
          · rw [firstUnprocessed, toCurrent_of_id first]
            exact (if_pos processed).trans taken

end PageBindings

/-!
## Commands of a walk
-/

/-- The page lists these items when it is asked now. -/
def Session.Finds (host : Host σ) (items : List ListItem) (session : Session σ) : Prop :=
  (Interp.listItems host session.counted).1 = .ok items

/-- What going to an item comes to when there is none to go to. -/
def Outcome.noItem (items : List ListItem) (message : String) : Outcome :=
  if items = [] then .failed "No items found in list" true else .failed message false

namespace Command

variable {host : Host σ} {session : Session σ} {items : List ListItem}

theorem run_goToItem_found (which : ItemChoice) {first : ListItem} {rest : List ListItem}
    {current : CurrentItem} (moves : which ≠ .current)
    (finds : session.Finds host (first :: rest))
    (chosen : ∀ world, Interp.chooseItem (first :: rest) first which
      { session.counted with world } = (.ok current, { session.counted with world })) :
    ∃ world, (Command.goToItem which).run host session =
      (.ok (.atItem current.id current.index),
        { session with run := session.run.countCommand.enter current, world }) := by
  obtain ⟨world, reached⟩ := Interp.listItems_looks host session.counted
  have listed : Interp.listItems host session.counted =
      (.ok (first :: rest), { session.counted with world }) := Prod.ext finds reached
  refine ⟨world, ?_⟩
  rw [Command.run, report_apply, Interp.goToItem, Interp.bind_apply, listed]
  dsimp only
  rw [Interp.bind_apply, chosen world]
  dsimp only
  rw [if_neg moves]
  rfl

theorem run_goToItem_failed (which : ItemChoice) (message : String)
    (finds : session.Finds host items)
    (chosen : ∀ first rest, items = first :: rest → ∀ world,
      Interp.chooseItem items first which { session.counted with world } =
        (.error (.command message (some "GO_TO_ITEM")), { session.counted with world })) :
    ∃ world, (Command.goToItem which).run host session =
      (.noItem items message, { session with run := session.run.countCommand, world }) := by
  obtain ⟨world, reached⟩ := Interp.listItems_looks host session.counted
  have listed : Interp.listItems host session.counted =
      (.ok items, { session.counted with world }) := Prod.ext finds reached
  refine ⟨world, ?_⟩
  rw [Command.run, report_apply, Interp.goToItem, Interp.bind_apply, listed]
  cases items with
  | nil => rfl
  | cons first rest =>
      dsimp only
      rw [Interp.bind_apply, chosen first rest rfl world]
      rfl

theorem run_markDone_of_current (host : Host σ) {current : CurrentItem}
    (seated : session.run.current = some current) :
    Command.markDone.run host session =
      (.ok (.marked current.id),
        { session with run := session.run.countCommand.markProcessed current.id }) := by
  have counted : session.counted.run.current = some current := seated
  rw [Command.run, report_apply, Interp.markDone, Interp.bind_apply, Interp.run_apply]
  dsimp only
  rw [counted]
  rfl

theorem run_markDone_of_none (nowhere : session.run.current = none) :
    (Command.markDone.run host session).2 = session.counted := by
  have counted : session.counted.run.current = none := nowhere
  rw [Command.run, report_apply, Interp.markDone, Interp.bind_apply, Interp.run_apply]
  dsimp only
  rw [counted]
  rfl

end Command

/-!
## From one item to the next
-/

namespace Session

/-- Commands executed one after another, whatever comes of each. -/
def afterAll (host : Host σ) (commands : List Command) (session : Session σ) : Session σ :=
  commands.foldl (fun here command => (command.run host here).2) session

theorem afterAll_bindings (host : Host σ) (commands : List Command) (session : Session σ) :
    (session.afterAll host commands).bindings = session.bindings := by
  induction commands generalizing session with
  | nil => rfl
  | cons command rest ih => exact (ih _).trans (command.run_bindings host _ session rfl)

/-- The session after going to the next item some number of times. -/
def afterNexts (host : Host σ) (times : Nat) (session : Session σ) : Session σ :=
  session.afterAll host (List.replicate times (.goToItem .next))

theorem afterNexts_succ (host : Host σ) (times : Nat) (session : Session σ) :
    session.afterNexts host (times + 1) =
      ((Command.goToItem .next).run host (session.afterNexts host times)).2 := by
  rw [afterNexts, List.replicate_succ', afterAll, List.foldl_append]
  rfl

/-- The next item is the one at a place. -/
def NextAt (place : Nat) (session : Session σ) : Prop :=
  (session.run.currentIndex + 1).toNat = place

end Session

section Nexts

variable {host : Host σ} {session : Session σ} {items : List ListItem} {ids : List String}
  {place : Nat}

theorem Command.run_next_inside {item : ListItem} {id : String}
    (numbers : session.bindings.Numbers items ids) (finds : session.Finds host items)
    (next : session.NextAt place) (here : items[place]? = some item)
    (named : ids[place]? = some id) :
    ((Command.goToItem .next).run host session).1 = .ok (.atItem id place) ∧
      ((Command.goToItem .next).run host session).2.run.current =
        some (session.bindings.currentOf item id) ∧
      ((Command.goToItem .next).run host session).2.NextAt (place + 1) := by
  have placed := numbers.placed place item here
  have isNamed : session.bindings.itemIdOf item = .ok id := by
    obtain ⟨inItems, rfl⟩ := List.getElem?_eq_some_iff.mp here
    obtain ⟨inIds, rfl⟩ := List.getElem?_eq_some_iff.mp named
    exact List.forall₂_iff_get.mp numbers.named |>.2 place inItems inIds
  obtain ⟨first, rest, rfl⟩ : ∃ first rest, items = first :: rest := by
    cases items with
    | nil => cases here
    | cons first rest => exact ⟨first, rest, rfl⟩
  obtain ⟨world, ran⟩ := run_goToItem_found .next nofun finds fun world => by
    have onward : ((session.counted.run.currentIndex + 1).toNat) = place := next
    simp only [Interp.chooseItem, Interp.bind_apply, Interp.bindings_apply, Interp.run_apply,
      onward, here, Interp.liftExcept_apply]
    rw [show session.counted.bindings = session.bindings from rfl,
      PageBindings.toCurrent_of_id isNamed]
  rw [ran]
  refine ⟨?_, rfl, ?_⟩
  · rw [← placed]
    rfl
  · show (item.index + 1).toNat = place + 1
    omega

theorem Command.run_next_outside (finds : session.Finds host items) (next : session.NextAt place)
    (outside : items.length ≤ place) :
    ((Command.goToItem .next).run host session).1 = .noItem items "No more items in list" ∧
      ((Command.goToItem .next).run host session).2.run.current = session.run.current ∧
      ((Command.goToItem .next).run host session).2.NextAt place := by
  obtain ⟨world, ran⟩ := run_goToItem_failed .next "No more items in list" finds
    fun first rest same world => by
      have onward : ((session.counted.run.currentIndex + 1).toNat) = place := next
      have beyond : items[place]? = none := List.getElem?_eq_none outside
      simp only [Interp.chooseItem, Interp.bind_apply, Interp.bindings_apply, Interp.run_apply,
        onward, beyond, Interp.throw_apply]
  rw [ran]
  exact ⟨rfl, rfl, next⟩

/-- As often as there are items, the next item is one place further. -/
theorem Session.afterNexts_nextAt {start : Session σ} (numbers : start.bindings.Numbers items ids)
    (fresh : start.NextAt 0) (finds : ∀ times, (start.afterNexts host times).Finds host items)
    (times : Nat) : (start.afterNexts host times).NextAt (min times items.length) := by
  induction times with
  | zero =>
      rw [Nat.zero_min]
      exact fresh
  | succ times ih =>
      have same : (start.afterNexts host times).bindings = start.bindings :=
        start.afterAll_bindings host _
      rw [Session.afterNexts_succ]
      rcases Nat.lt_or_ge times items.length with inside | outside
      · have further : min (times + 1) items.length = times + 1 := Nat.min_eq_left inside
        have inIds : times < ids.length := numbers.named.length_eq ▸ inside
        rw [Nat.min_eq_left (Nat.le_of_lt inside)] at ih
        rw [further]
        exact (Command.run_next_inside (same ▸ numbers) (finds times) ih
          (List.getElem?_eq_getElem inside) (List.getElem?_eq_getElem inIds)).2.2
      · have stay : min (times + 1) items.length = items.length :=
          Nat.min_eq_right (outside.trans (Nat.le_succ _))
        rw [Nat.min_eq_right outside] at ih
        rw [stay]
        exact (Command.run_next_outside (finds times) ih le_rfl).2.2

end Nexts

/-!
## Legs
-/

/-- None of the commands marks an item as done or changes the current item, as they are executed
one after another. -/
def Aside (host : Host σ) : List Command → Session σ → Prop
  | [], _ => True
  | command :: rest, session =>
      (command.run host session).2.run.processed = session.run.processed ∧
        (command.run host session).2.run.current = session.run.current ∧
        Aside host rest (command.run host session).2

/-- A leg of a walk: going to an item that is not done and marking it as done, with other commands
before and between. -/
structure Leg where
  before : List Command := []
  between : List Command := []

namespace Leg

variable (host : Host σ) (leg : Leg) (session : Session σ)

/-- The session in which the item is looked for. -/
def ready : Session σ := session.afterAll host leg.before

def went : Outcome × Session σ :=
  (Command.goToItem .unprocessed).run host (leg.ready host session)

def marked : Outcome × Session σ :=
  Command.markDone.run host ((leg.went host session).2.afterAll host leg.between)

/-- The page lists the items when the leg goes to one, and the other commands leave alone what is
done and which item is current. -/
structure Fair (items : List ListItem) : Prop where
  finds : (leg.ready host session).Finds host items
  before : Aside host leg.before session
  between : Aside host leg.between (leg.went host session).2

end Leg

/-- The session after some legs. -/
def Session.afterLegs (host : Host σ) (legs : List Leg) (session : Session σ) : Session σ :=
  legs.foldl (fun here leg => (leg.marked host here).2) session

/-- What is done is the first of the distinct ids, as many as there were legs. -/
structure Session.Done (b : PageBindings) (ids : List String) (legs : Nat)
    (session : Session σ) : Prop where
  bindings : session.bindings = b
  processed : session.run.processed = ids.eraseDups.take legs
  tallied : session.run.Tallied

/-- The current item, if there is one, is done. -/
def Session.Rests (session : Session σ) : Prop :=
  ∀ current, session.run.current = some current → current.id ∈ session.run.processed

section Legs

variable {host : Host σ} {leg : Leg} {session : Session σ} {b : PageBindings}
  {items : List ListItem} {ids : List String} {legs : Nat} {commands : List Command}

theorem Aside.afterAll (aside : Aside host commands session) :
    (session.afterAll host commands).run.processed = session.run.processed ∧
      (session.afterAll host commands).run.current = session.run.current := by
  induction commands generalizing session with
  | nil => exact ⟨rfl, rfl⟩
  | cons command rest ih =>
      obtain ⟨processed, current, others⟩ := aside
      obtain ⟨restProcessed, restCurrent⟩ := ih others
      exact ⟨restProcessed.trans processed, restCurrent.trans current⟩

/-- Plain commands that neither mark an item nor go to one are always aside. -/
theorem Aside.of_plain (others : ∀ command ∈ commands,
      command.isPlain = true ∧ command ≠ .markDone ∧ command.reseats = false)
    (session : Session σ) : Aside host commands session := by
  induction commands generalizing session with
  | nil => exact trivial
  | cons command rest ih =>
      obtain ⟨⟨plain, notMark, stays⟩, restOthers⟩ := List.forall_mem_cons.mp others
      obtain ⟨run, world, reached, deed⟩ := command.run_deed host plain session
      have current : run.current = session.run.current := deed.current stays
      have processed : run.processed = session.run.processed := by
        generalize (command.run host session).1 = outcome at deed
        cases deed with
        | marked => exact absurd rfl notMark
        | _ => rfl
      refine ⟨?_, ?_, ih restOthers _⟩
      · rw [reached]
        exact processed
      · rw [reached]
        exact current

theorem Command.run_tallied (command : Command) (tallied : session.run.Tallied) :
    (command.run host session).2.run.Tallied :=
  (command.grows_after_count host session).tallied ((Run.grows_countCommand _).tallied tallied)

theorem Session.afterAll_tallied (commands : List Command) (tallied : session.run.Tallied) :
    (session.afterAll host commands).run.Tallied := by
  induction commands generalizing session with
  | nil => exact tallied
  | cons command rest ih => exact ih (command.run_tallied tallied)

namespace Session

theorem Done.aside (done : session.Done b ids legs) (aside : Aside host commands session) :
    (session.afterAll host commands).Done b ids legs where
  bindings := (session.afterAll_bindings host commands).trans done.bindings
  processed := aside.afterAll.1.trans done.processed
  tallied := afterAll_tallied commands done.tallied

theorem Done.run {command : Command} (done : session.Done b ids legs)
    (processed : (command.run host session).2.run.processed = ids.eraseDups.take legs) :
    (command.run host session).2.Done b ids legs where
  bindings := command.run_bindings host b session done.bindings
  processed := processed
  tallied := command.run_tallied done.tallied

/-- As many items are counted as there were legs, or as there are distinct ids. -/
theorem Done.itemsProcessed (done : session.Done b ids legs) :
    session.run.stats.itemsProcessed = min legs ids.eraseDups.length := by
  have once : (ids.eraseDups.take legs).Nodup :=
    (nodup_eraseDups ids).sublist (List.take_sublist _ _)
  rw [done.tallied, done.processed, List.toFinset_card_of_nodup once, List.length_take]

theorem Done.isProcessed (done : session.Done b ids legs) :
    (ids.find? fun id => !session.run.countCommand.isProcessed id) = ids.eraseDups[legs]? := by
  rw [← find?_undone ids legs, ← done.processed]
  rfl

/-- Marking an item with the next distinct id. -/
theorem Done.mark (host : Host σ) {current : CurrentItem} (done : session.Done b ids legs)
    (next : ids.eraseDups[legs]? = some current.id)
    (seated : session.run.current = some current) :
    (Command.markDone.run host session).1 = .ok (.marked current.id) ∧
      (Command.markDone.run host session).2.Done b ids (legs + 1) ∧
      (Command.markDone.run host session).2.Rests := by
  have marked := Command.run_markDone_of_current host seated
  have fresh : current.id ∉ session.run.processed := by
    rw [done.processed]
    intro among
    obtain ⟨place, before, found⟩ := List.mem_take_iff_getElem.mp among
    obtain ⟨inside, same⟩ := List.getElem?_eq_some_iff.mp next
    have earlier : place < legs := (Nat.lt_min.mp before).1
    have twice := (nodup_eraseDups ids).getElem_inj_iff.mp (found.trans same.symm)
    omega
  have unknown : ¬session.run.countCommand.isProcessed current.id = true :=
    fun known => fresh (List.contains_iff_mem.mp known)
  have processed : (Command.markDone.run host session).2.run.processed =
      session.run.processed ++ [current.id] := by
    rw [marked]
    show (Run.markProcessed current.id session.run.countCommand).processed = _
    rw [Run.markProcessed, if_neg unknown]
    rfl
  have stays : (Command.markDone.run host session).2.run.current = some current := by
    rw [marked]
    show (Run.markProcessed current.id session.run.countCommand).current = _
    rw [Run.markProcessed, if_neg unknown]
    exact seated
  refine ⟨by rw [marked], ?_, fun other same => ?_⟩
  · refine { bindings := Command.run_bindings host b .markDone session done.bindings
             processed := ?_
             tallied := Command.run_tallied .markDone done.tallied }
    rw [processed, done.processed, List.take_add_one, next]
    rfl
  · rw [stays] at same
    cases same
    rw [processed]
    exact List.mem_append_right _ (List.mem_singleton_self _)

/-- When every id is done, marking the current item changes nothing. -/
theorem Done.mark_again (host : Host σ) (done : session.Done b ids legs)
    (past : ids.eraseDups.length ≤ legs) (rests : session.Rests) :
    (Command.markDone.run host session).2.Done b ids (legs + 1) ∧
      (Command.markDone.run host session).2.Rests := by
  have still : (Command.markDone.run host session).2 = session.counted := by
    cases current : session.run.current with
    | none => exact Command.run_markDone_of_none current
    | some item =>
        have known : session.run.countCommand.isProcessed item.id = true :=
          List.contains_iff_mem.mpr (rests item current)
        rw [Command.run_markDone_of_current host current, Run.markProcessed, if_pos known]
        rfl
  rw [still]
  refine ⟨{ bindings := done.bindings, processed := ?_, tallied := done.tallied }, rests⟩
  rw [List.take_of_length_le (past.trans (Nat.le_succ _)), ← List.take_of_length_le past]
  exact done.processed

end Session

/-- While there is an id that is not done, its first item becomes current. -/
theorem Command.run_unprocessed_found {id : String} (numbers : b.Numbers items ids)
    (done : session.Done b ids legs) (finds : session.Finds host items)
    (next : ids.eraseDups[legs]? = some id) :
    ∃ item world, items[ids.idxOf id]? = some item ∧
      (Command.goToItem .unprocessed).run host session =
        (.ok (.atItem id (ids.idxOf id)),
          { session with run := session.run.countCommand.enter (b.currentOf item id), world }) := by
  obtain ⟨item, there, chosen⟩ :=
    PageBindings.firstUnprocessed_some numbers.named (done.isProcessed.trans next)
  obtain ⟨first, rest, rfl⟩ : ∃ first rest, items = first :: rest := by
    cases items with
    | nil => cases there
    | cons first rest => exact ⟨first, rest, rfl⟩
  obtain ⟨world, ran⟩ := run_goToItem_found .unprocessed nofun finds fun world => by
    have bindings : session.counted.bindings = b := done.bindings
    simp only [Interp.chooseItem, Interp.bind_apply, Interp.bindings_apply, Interp.run_apply,
      Interp.liftExcept_apply, bindings]
    rw [show session.counted.run = session.run.countCommand from rfl, chosen]
    rfl
  refine ⟨item, world, there, ?_⟩
  rw [ran]
  have index : (b.currentOf item id).index = ids.idxOf id := numbers.placed _ item there
  rw [index]
  rfl

/-- When every id is done, there is no item to go to. -/
theorem Command.run_unprocessed_failed (numbers : b.Numbers items ids)
    (done : session.Done b ids legs) (finds : session.Finds host items)
    (past : ids.eraseDups.length ≤ legs) :
    ∃ world, (Command.goToItem .unprocessed).run host session =
      (.noItem items "No unprocessed items",
        { session with run := session.run.countCommand, world }) := by
  have nothing := PageBindings.firstUnprocessed_none numbers.named
    (done.isProcessed.trans (List.getElem?_eq_none past))
  refine run_goToItem_failed .unprocessed _ finds fun first rest same world => ?_
  have bindings : session.counted.bindings = b := done.bindings
  simp only [Interp.chooseItem, Interp.bind_apply, Interp.bindings_apply, Interp.run_apply,
    Interp.liftExcept_apply, bindings]
  rw [show session.counted.run = session.run.countCommand from rfl, nothing]
  rfl

namespace Leg

/-- What a leg comes to after a number of them. -/
structure Visits (host : Host σ) (leg : Leg) (session : Session σ) (items : List ListItem)
    (ids : List String) (legs : Nat) : Prop where
  /-- While there are distinct ids left, the first item with the next one becomes current, and is
  marked as done. -/
  found (id : String) (next : ids.eraseDups[legs]? = some id) :
    (leg.went host session).1 = .ok (.atItem id (ids.idxOf id)) ∧
      (∃ item, items[ids.idxOf id]? = some item ∧
        (leg.went host session).2.run.current = some (session.bindings.currentOf item id)) ∧
      (leg.marked host session).1 = .ok (.marked id)
  /-- After that there is no item to go to, and the current item does not change. -/
  past (visited : ids.eraseDups.length ≤ legs) :
    (leg.went host session).1 = .noItem items "No unprocessed items" ∧
      (leg.went host session).2.run.current = session.run.current
  counted : (leg.marked host session).2.run.stats.itemsProcessed =
    min (legs + 1) ids.eraseDups.length

/-- Every leg is as it should be, and leads to where the next one is. -/
theorem visits (numbers : b.Numbers items ids) (done : session.Done b ids legs)
    (rests : session.Rests) (fair : leg.Fair host session items) :
    leg.Visits host session items ids legs ∧
      (leg.marked host session).2.Done b ids (legs + 1) ∧
      (leg.marked host session).2.Rests := by
  have ready := done.aside fair.before
  obtain ⟨-, sameCurrent⟩ := fair.before.afterAll
  cases next : ids.eraseDups[legs]? with
  | some id =>
      obtain ⟨inside, -⟩ := List.getElem?_eq_some_iff.mp next
      obtain ⟨item, world, there, ran⟩ :=
        Command.run_unprocessed_found numbers ready fair.finds next
      have went : leg.went host session = _ := ran
      have current : (leg.went host session).2.run.current = some (b.currentOf item id) := by
        rw [went]
        rfl
      have seated : (leg.went host session).2.Done b ids legs :=
        ready.run (by rw [ran]; exact ready.processed)
      obtain ⟨marked, later, resting⟩ := (seated.aside fair.between).mark host next
        (fair.between.afterAll.2.trans current)
      refine ⟨⟨fun other same => ?_, fun visited => ?_, later.itemsProcessed⟩, later, resting⟩
      · obtain rfl : id = other := Option.some.inj (next.symm.trans same)
        exact ⟨by rw [went], ⟨item, there, done.bindings ▸ current⟩, marked⟩
      · exact absurd inside (Nat.not_lt.mpr visited)
  | none =>
      have past : ids.eraseDups.length ≤ legs := List.getElem?_eq_none_iff.mp next
      obtain ⟨world, ran⟩ := Command.run_unprocessed_failed numbers ready fair.finds past
      have went : leg.went host session = _ := ran
      have current : (leg.went host session).2.run.current = session.run.current := by
        rw [went]
        exact sameCurrent
      have seated : (leg.went host session).2.Done b ids legs :=
        ready.run (by rw [ran]; exact ready.processed)
      have later := seated.aside fair.between
      have laterRests : ((leg.went host session).2.afterAll host leg.between).Rests := by
        intro item same
        rw [later.processed, ← done.processed]
        exact rests item ((fair.between.afterAll.2.trans current).symm.trans same)
      obtain ⟨later, resting⟩ := later.mark_again host past laterRests
      refine ⟨⟨fun other same => ?_, fun _ => ⟨by rw [went], current⟩, later.itemsProcessed⟩, later,
        resting⟩
      cases next.symm.trans same

end Leg

theorem Session.afterLegs_bindings (legs : List Leg) (session : Session σ) :
    (session.afterLegs host legs).bindings = session.bindings := by
  induction legs generalizing session with
  | nil => rfl
  | cons leg rest ih =>
      have ready := session.afterAll_bindings host leg.before
      have went := (Command.goToItem .unprocessed).run_bindings host _ _ ready
      have seated := ((leg.went host session).2.afterAll_bindings host leg.between).trans went
      exact (ih _).trans (Command.markDone.run_bindings host _ _ seated)

theorem Session.afterLegs_take {place : Nat} {legs : List Leg} {start : Session σ}
    (here : legs[place]? = some leg) :
    start.afterLegs host (legs.take (place + 1)) =
      (leg.marked host (start.afterLegs host (legs.take place))).2 := by
  rw [List.take_add_one, here, Session.afterLegs, List.foldl_append]
  rfl

/-- As long as the legs are fair, they go from one distinct id to the next. -/
theorem Session.afterLegs_done {legs : List Leg} {start : Session σ}
    (numbers : b.Numbers items ids) (done : start.Done b ids 0) (rests : start.Rests)
    (fair : ∀ (place : Nat) (leg : Leg), legs[place]? = some leg →
      leg.Fair host (start.afterLegs host (legs.take place)) items)
    {place : Nat} (inside : place ≤ legs.length) :
    (start.afterLegs host (legs.take place)).Done b ids place ∧
      (start.afterLegs host (legs.take place)).Rests := by
  induction place with
  | zero => exact ⟨done, rests⟩
  | succ place ih =>
      obtain ⟨done, rests⟩ := ih (Nat.le_of_succ_le inside)
      have here : legs[place]? = some legs[place] := List.getElem?_eq_getElem inside
      rw [Session.afterLegs_take here]
      exact (Leg.visits numbers done rests (fair place _ here)).2

end Legs

/-!
## Whole walks
-/

/-- A list that stays is walked completely, from a run that begins. Going to the next item comes to
the items one after the other, and then fails with the current item unchanged. Legs of going to
an item that is not done and marking it as done come to each distinct id once, in the order in
which they first occur, and then there is no item to go to; as many items are counted as there were
distinct ids to come to. -/
theorem Session.walks_list {host : Host σ} {start : Session σ} {startedAt : Float}
    {items : List ListItem} {ids : List String} (fresh : start.run = { startedAt })
    (numbers : start.bindings.Numbers items ids) :
    ((∀ times, (start.afterNexts host times).Finds host items) → ∀ times,
      (∀ item id, items[times]? = some item → ids[times]? = some id →
        ((Command.goToItem .next).run host (start.afterNexts host times)).1 =
            .ok (.atItem id times) ∧
          (start.afterNexts host (times + 1)).run.current =
            some (start.bindings.currentOf item id)) ∧
      (items.length ≤ times →
        ((Command.goToItem .next).run host (start.afterNexts host times)).1 =
            .noItem items "No more items in list" ∧
          (start.afterNexts host (times + 1)).run.current =
            (start.afterNexts host times).run.current)) ∧
    ∀ legs : List Leg,
      (∀ (place : Nat) (leg : Leg), legs[place]? = some leg →
        leg.Fair host (start.afterLegs host (legs.take place)) items) →
      (∀ (place : Nat) (leg : Leg), legs[place]? = some leg →
        leg.Visits host (start.afterLegs host (legs.take place)) items ids place) ∧
      (start.afterLegs host legs).run.stats.itemsProcessed =
        min legs.length ids.eraseDups.length := by
  refine ⟨fun finds times => ?_, fun legs fair => ?_⟩
  · have first : start.NextAt 0 := by rw [NextAt, fresh]; rfl
    have next := afterNexts_nextAt numbers first finds times
    have same : (start.afterNexts host times).bindings = start.bindings :=
      start.afterAll_bindings host _
    rw [afterNexts_succ]
    refine ⟨fun item id here named => ?_, fun outside => ?_⟩
    · obtain ⟨inside, -⟩ := List.getElem?_eq_some_iff.mp here
      rw [Nat.min_eq_left inside.le] at next
      obtain ⟨outcome, current, -⟩ :=
        Command.run_next_inside (same ▸ numbers) (finds times) next here named
      exact ⟨outcome, same ▸ current⟩
    · rw [Nat.min_eq_right outside] at next
      obtain ⟨outcome, current, -⟩ := Command.run_next_outside (finds times) next le_rfl
      exact ⟨outcome, current⟩
  · have done : start.Done start.bindings ids 0 :=
      { bindings := rfl, processed := by rw [fresh]; rfl, tallied := by rw [fresh]; rfl }
    have rests : start.Rests := by
      intro current seated
      rw [fresh] at seated
      cases seated
    refine ⟨fun place leg here => ?_, ?_⟩
    · obtain ⟨inside, -⟩ := List.getElem?_eq_some_iff.mp here
      obtain ⟨done, rests⟩ := afterLegs_done numbers done rests fair inside.le
      exact (Leg.visits numbers done rests (fair place leg here)).1
    · obtain ⟨done, -⟩ := afterLegs_done numbers done rests fair le_rfl
      rw [List.take_length] at done
      exact done.itemsProcessed

namespace Rehearsal

/-- Three items, of which the first and the last have the same id. -/
def twiceListed : List ListItem :=
  [{ index := 0, dataId := some "a" }, { index := 1, dataId := some "b" },
    { index := 2, dataId := some "a" }]

def stillHost : Host World where
  page := { page with items := fun _ _ _ world => (.ok twiceListed, world) }
  clock := clock

def stillStart : Session World :=
  Session.start clock
    { updatedAt := 0, listItem := ".job-card", itemId := some { source := .data } } {}

theorem stillHost_finds {session : Session World} (same : session.bindings = stillStart.bindings) :
    session.Finds stillHost twiceListed := by
  have bindings : session.counted.bindings = stillStart.bindings := same
  have selector : stillStart.bindings.itemSelector = .ok ".job-card" :=
    if_neg (by decide +kernel)
  rw [Session.Finds, Interp.listItems, Interp.bind_apply, Interp.bindings_apply]
  dsimp only
  rw [bindings, Interp.bind_apply, Interp.liftExcept_apply, selector]
  rfl

/-- A refresh before and a look at the count between. -/
def busyLeg : Leg :=
  { before := [.refresh], between := [.checkpointCount] }

theorem busyLeg_fair {session : Session World} (same : session.bindings = stillStart.bindings) :
    busyLeg.Fair stillHost session twiceListed := by
  have refreshes : ∀ command ∈ [Command.refresh],
      command.isPlain = true ∧ command ≠ .markDone ∧ command.reseats = false :=
    List.forall_mem_singleton.mpr ⟨rfl, nofun, rfl⟩
  have looks : ∀ command ∈ [Command.checkpointCount],
      command.isPlain = true ∧ command ≠ .markDone ∧ command.reseats = false :=
    List.forall_mem_singleton.mpr ⟨rfl, nofun, rfl⟩
  have finds := stillHost_finds ((session.afterAll_bindings stillHost busyLeg.before).trans same)
  exact ⟨finds, .of_plain refreshes session, .of_plain looks _⟩

end Rehearsal

open Rehearsal in
theorem Session.walks_list_listed_twice :
    ((Command.goToItem .next).run stillHost (stillStart.afterNexts stillHost 3)).1 =
        .failed "No more items in list" false ∧
      (busyLeg.went stillHost (stillStart.afterLegs stillHost [busyLeg])).1 =
        .ok (.atItem "b" 1) ∧
      (stillStart.afterLegs stillHost [busyLeg, busyLeg, busyLeg]).run.stats.itemsProcessed
        = 2 := by
  have numbers : stillStart.bindings.Numbers twiceListed ["a", "b", "a"] := by
    refine ⟨fun place item here => ?_, ?_⟩
    · match place, here with
      | 0, rfl => rfl
      | 1, rfl => rfl
      | 2, rfl => rfl
    · exact .cons rfl (.cons rfl (.cons rfl .nil))
  obtain ⟨nexts, legs⟩ := @walks_list _ stillHost stillStart _ _ _ rfl numbers
  have finds (times : Nat) : (stillStart.afterNexts stillHost times).Finds stillHost twiceListed :=
    stillHost_finds (stillStart.afterAll_bindings stillHost _)
  have fair : ∀ (place : Nat) (leg : Leg),
      [busyLeg, busyLeg, busyLeg][place]? = some leg →
        leg.Fair stillHost
          (stillStart.afterLegs stillHost ([busyLeg, busyLeg, busyLeg].take place))
          twiceListed := by
    intro place leg here
    have same : leg = busyLeg := by simpa using List.mem_of_getElem? here
    rw [same]
    exact busyLeg_fair (stillStart.afterLegs_bindings _)
  obtain ⟨visits, counted⟩ := legs _ fair
  have past := ((nexts finds 3).2 le_rfl).1
  have second := ((visits 1 busyLeg rfl).found "b" (by decide)).1
  have distinct : min 3 ["a", "b", "a"].eraseDups.length = 2 := by decide
  have one : [busyLeg, busyLeg, busyLeg].take 1 = [busyLeg] := rfl
  have place : ["a", "b", "a"].idxOf "b" = 1 := by decide
  rw [one, place] at second
  exact ⟨past, second, counted.trans distinct⟩

end Gleaner
