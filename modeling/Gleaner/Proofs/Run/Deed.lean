import Gleaner.Proofs.Run.Looking

/-!
# What plain commands do to a run

A plain command runs no other commands. `Deed` lists everything that one may do to the state
of a run, command by command and by its outcome; `Command.run_deed` says that nothing else
happens: beside the deed the command is counted, and only the world has changed.
-/

set_option autoImplicit false

namespace Gleaner

/-- A command that runs no other commands. -/
def Command.isPlain : Command → Bool
  | .forEachItem _ _ => false
  | .choose _ _ _ => false
  | .repeatUntil _ _ => false
  | _ => true

/-- A plain command that only looks at the page, waits, or acts on it. -/
def Command.onlyLooks : Command → Bool
  | .openPage _ | .goBack | .refresh | .waitFor _ | .wait _ => true
  | .type _ | .submit | .click | .clickIfExists _ | .select _ | .clear | .setChecked _ => true
  | _ => false

/-- A plain command that saves an item or marks one as done. -/
def Command.writesLedger : Command → Bool
  | .save _ | .markDone => true
  | _ => false

/-- The run with one more saved item; it stops when the bound is reached. -/
def Run.keep (most : Option Nat) (item : Item) (run : Run) : Run :=
  let collected := run.collected ++ [item]
  let full := most.any fun most => most ≠ 0 && most ≤ collected.length
  { run with collected, stopped := run.stopped || full }

/-- Marking an item changes what is done and how much, and nothing else. -/
theorem Run.markProcessed_ledger (id : String) (run : Run) :
    ∃ processed itemsProcessed, run.markProcessed id =
      { run with processed, stats := { run.stats with itemsProcessed } } := by
  unfold markProcessed
  split
  · exact ⟨_, _, rfl⟩
  · exact ⟨_, _, rfl⟩

/-- With room for one more item the run goes on and still has room, or it is full and stops. -/
theorem Run.keep_bound {most : Nat} {run : Run} (item : Item) (going : run.stopped = false)
    (room : run.collected.length < most) :
    (run.keep (some most) item).stopped = false ∧
        (run.keep (some most) item).collected.length < most ∨
      (run.keep (some most) item).stopped = true ∧
        (run.keep (some most) item).collected.length = most := by
  have length : (run.keep (some most) item).collected.length = run.collected.length + 1 := by
    simp [keep]
  have stopped : (run.keep (some most) item).stopped =
      decide (most ≤ run.collected.length + 1) := by
    have positive : most ≠ 0 := by omega
    simp [keep, going, positive]
  rw [length, stopped]
  by_cases last : most ≤ run.collected.length + 1
  · exact .inr ⟨decide_eq_true last, by omega⟩
  · exact .inl ⟨decide_eq_false last, by omega⟩

/-- What a plain command with an outcome makes of a run whose items are bounded by `most`. -/
inductive Deed (most : Option Nat) : Command → Outcome → Run → Run → Prop where
  | failed {command : Command} {error : String} {repairable : Bool} {run : Run} :
      Deed most command (.failed error repairable) run run
  | looked {command : Command} {report : Report} {run : Run} :
      command.onlyLooks = true → Deed most command (.ok report) run run
  | focused {name : String} {report : Report} {run : Run} (ref : ElementRef) :
      Deed most (.goTo name) (.ok report) run { run with focus := some ref }
  | filterFocused {name : String} {report : Report} {run : Run} (ref : ElementRef) :
      Deed most (.goToFilter name) (.ok report) run { run with focus := some ref }
  | refocused {report : Report} {run : Run} (current : CurrentItem) :
      run.current = some current →
      Deed most (.goToItem .current) (.ok report) run { run with focus := some current.ref }
  | entered {which : ItemChoice} {report : Report} {run : Run} (item : CurrentItem) :
      which ≠ .current → Deed most (.goToItem which) (.ok report) run (run.enter item)
  | scrolled {target : ScrollTarget} {direction : Direction} {outcome : Outcome} {run : Run} :
      Deed most (.scroll target direction) outcome run run.countScroll
  | atEnd {target : ScrollTarget} {report : Report} {run : Run} :
      Deed most (.scrollIfNotEnd target) (.ok report) run run
  | scrolledOn {target : ScrollTarget} {outcome : Outcome} {run : Run} :
      Deed most (.scrollIfNotEnd target) outcome run run.countScroll
  | scrolledTo {percent : Float} {outcome : Outcome} {run : Run} :
      Deed most (.scrollTo percent) outcome run run.countScroll
  | extracted {selectors : Option (List String)} {report : Report} {run : Run} (text : String) :
      text ≠ "" →
      Deed most (.extractDetails selectors) (.ok report) run { run with content := some text }
  | saved {label : String} {report : Report} {run : Run} (current : CurrentItem)
      (content : String) (savedAt : Float) :
      run.current = some current → run.content = some content → content ≠ "" →
      Deed most (.save label) (.ok report) run
        (run.keep most { id := current.id, content, savedAt, label })
  | marked {report : Report} {run : Run} (current : CurrentItem) :
      run.current = some current →
      Deed most .markDone (.ok report) run (run.markProcessed current.id)
  | counted {report : Report} {run : Run} (count : Int) :
      Deed most .checkpointCount (.ok report) run { run with checkpoint := count }
  | skipped {report : Report} {run : Run} :
      Deed most .continueItem (.ok report) run { run with skipping := true }
  | finished {report : Report} {run : Run} :
      Deed most .finish (.ok report) run { run with stopped := true }

/-- The outcome of a command whose body gave a report or a fault. -/
def Outcome.ofResult : Except Fault Report → Outcome
  | .ok report => .ok report
  | .error fault => .ofFault fault

@[simp] theorem Outcome.ofResult_ok (report : Report) :
    Outcome.ofResult (.ok report) = .ok report := rfl

@[simp] theorem Outcome.ofResult_error (fault : Fault) :
    Outcome.ofResult (.error fault) = .ofFault fault := rfl

theorem Outcome.ofFault_failed (fault : Fault) :
    ∃ error repairable, Outcome.ofFault fault = .failed error repairable := by
  cases fault <;> exact ⟨_, _, rfl⟩

namespace Deed

theorem ofFault {most : Option Nat} {command : Command} {run : Run} (fault : Fault) :
    Deed most command (.ofFault fault) run run := by
  obtain ⟨error, repairable, same⟩ := Outcome.ofFault_failed fault
  rw [same]
  exact .failed

/-- A deed of any other command leaves what is saved and done, and it only ever stops a run. -/
theorem ledger {most : Option Nat} {command : Command} {outcome : Outcome} {before after : Run}
    (deed : Deed most command outcome before after) (quiet : command.writesLedger = false) :
    after.processed = before.processed ∧ after.collected = before.collected ∧
      after.stats.itemsProcessed = before.stats.itemsProcessed ∧
      (before.stopped = true → after.stopped = true) := by
  cases deed with
  | saved => cases quiet
  | marked => cases quiet
  | finished => exact ⟨rfl, rfl, rfl, fun _ => rfl⟩
  | _ => exact ⟨rfl, rfl, rfl, id⟩

end Deed

section Bodies

variable {σ : Type}

/-- The session as it enters the body of a command. -/
def Session.counted (session : Session σ) : Session σ :=
  { session with run := session.run.countCommand }

theorem attempt_apply (body : Interp σ Outcome) (session : Session σ) :
    attempt body session =
      match body session.counted with
      | (.ok outcome, after) => (outcome, after)
      | (.error fault, after) => (.ofFault fault, after) := by
  simp only [attempt, Session.bind_apply, Session.modify_apply, ExceptT.run, Session.counted]
  rcases body { session with run := session.run.countCommand } with ⟨fault | outcome, after⟩ <;> rfl

theorem attempt_snd (body : Interp σ Outcome) (session : Session σ) :
    (attempt body session).2 = (body session.counted).2 := by
  rw [attempt_apply]
  rcases body session.counted with ⟨fault | outcome, after⟩ <;> rfl

theorem report_apply (body : Interp σ Report) (session : Session σ) :
    report body session = (.ofResult (body session.counted).1, (body session.counted).2) := by
  have mapped : (Outcome.ok <$> body : Interp σ Outcome) =
      body >>= fun report => pure (.ok report) := rfl
  rw [report, attempt_apply, mapped, Interp.bind_apply]
  rcases body session.counted with ⟨fault | report, after⟩ <;> rfl

theorem report_ok {body : Interp σ Report} {answer : Report} {session after : Session σ}
    (ran : body session.counted = (.ok answer, after)) :
    report body session = (.ok answer, after) := by
  rw [report_apply, ran]
  rfl

/-- The body of a plain command: it does the deed and touches nothing else but the world. -/
def Interp.Does (command : Command) (body : Interp σ Report) : Prop :=
  ∀ session, ∃ run world, (body session).2 = { session with run, world } ∧
    Deed session.maxItems command (.ofResult (body session).1) session.run run

namespace Interp

theorem Looks.does {command : Command} {body : Interp σ Report} (looks : Looks body)
    (onlyLooks : command.onlyLooks = true) : Does command body := by
  intro session
  obtain ⟨world, reached⟩ := looks session
  refine ⟨session.run, world, reached, ?_⟩
  cases (body session).1 with
  | ok report => exact .looked onlyLooks
  | error fault => exact .ofFault fault

theorem Looks.doesThen {α : Type} {command : Command} {first : Interp σ α}
    {next : α → Interp σ Report} (looks : Looks first)
    (nextDoes : ∀ value, Does command (next value)) : Does command (first >>= next) := by
  intro session
  obtain ⟨middle, reached⟩ := looks session
  rw [bind_apply]
  rcases ran : first session with ⟨fault | value, after⟩
  · exact ⟨session.run, middle, by simpa [ran] using reached, .ofFault _⟩
  · have same : after = { session with world := middle } := by simpa [ran] using reached
    obtain ⟨run, world, final, deed⟩ := nextDoes value after
    subst same
    exact ⟨run, world, final, deed⟩

theorem Does.throw {command : Command} (fault : Fault) :
    Does command (MonadExcept.throw fault : Interp σ Report) :=
  fun session => ⟨session.run, session.world, rfl, .ofFault fault⟩

theorem Does.ite {command : Command} {condition : Prop} [Decidable condition]
    {first second : Interp σ Report} (does : Does command first) (otherDoes : Does command second) :
    Does command (if condition then first else second) := by
  split
  · exact does
  · exact otherDoes

theorem Does.update {command : Command} {change : Run → Run} {report : Report}
    (deed : ∀ most run, Deed most command (.ok report) run (change run)) :
    Does command (do Interp.update change; return report : Interp σ Report) :=
  fun session => ⟨change session.run, session.world, rfl, deed _ _⟩

/-!
## Bodies that change the run
-/

variable (host : Host σ)

theorem focusOn_does {command : Command} (selector : String)
    (deed : ∀ most report run ref, Deed most command (.ok report) run
      { run with focus := some ref }) : Does command (focusOn host selector) :=
  (Looks.act _).doesThen fun _ => .ite (.update fun _ _ => deed _ _ _ _) (.throw _)

theorem goTo_does (name : String) : Does (.goTo name) (goTo host name) :=
  Looks.bindings.doesThen fun _ => (Looks.liftExcept _).doesThen fun selector =>
    focusOn_does host selector fun _ _ _ ref => .focused ref

theorem goToFilter_does (name : String) : Does (.goToFilter name) (goToFilter host name) :=
  Looks.bindings.doesThen fun _ => (Looks.liftExcept _).doesThen fun selector =>
    focusOn_does host selector fun _ _ _ ref => .filterFocused ref

/-- The current item is chosen only when there is one. -/
theorem chooseItem_current {items : List ListItem} {first : ListItem} {session after : Session σ}
    {chosen : CurrentItem}
    (found : chooseItem items first .current session = (.ok chosen, after)) :
    session.run.current = some chosen := by
  simp only [chooseItem, bind_apply, bindings_apply, run_apply] at found
  cases current : session.run.current with
  | none =>
      simp only [current, throw_apply] at found
      cases found
  | some item =>
      simp only [current, pure_apply] at found
      cases found
      rfl

theorem goToItem_does (which : ItemChoice) : Does (.goToItem which) (goToItem host which) := by
  refine (listItems_looks host).doesThen fun items => ?_
  cases items with
  | nil => exact Looks.bindings.doesThen fun _ => .throw _
  | cons first rest =>
      by_cases again : which = .current
      · subst again
        intro session
        obtain ⟨world, reached⟩ := chooseItem_looks (first :: rest) first .current session
        dsimp only
        rw [bind_apply]
        rcases chose : chooseItem (first :: rest) first .current session with ⟨fault | chosen, after⟩
        · exact ⟨session.run, world, by simpa [chose] using reached, .ofFault _⟩
        · have same : after = { session with world } := by simpa [chose] using reached
          subst same
          exact ⟨_, world, rfl, .refocused chosen (chooseItem_current chose)⟩
      · refine (chooseItem_looks _ _ which).doesThen fun chosen => ?_
        rw [if_neg again]
        exact .update fun _ _ => .entered chosen again

theorem scroll_run (target : ScrollTarget) (direction : Direction) (session : Session σ) :
    ∃ world, (scroll host target direction session).2 =
      { session with run := session.run.countScroll, world } := by
  have moves (action : Action σ Unit) := acting_looks action .done
  simp only [scroll, bind_apply, update_apply, bindings_apply]
  cases direction with
  | down => exact moves _ { session with run := session.run.countScroll }
  | up => exact moves _ { session with run := session.run.countScroll }

theorem scroll_does (target : ScrollTarget) (direction : Direction) :
    Does (.scroll target direction) (scroll host target direction) := by
  intro session
  obtain ⟨world, reached⟩ := scroll_run host target direction session
  exact ⟨_, world, reached, .scrolled⟩

theorem scrollIfNotEnd_does (target : ScrollTarget) :
    Does (.scrollIfNotEnd target) (scrollIfNotEnd host target) := by
  refine (atPageEnd_looks host).doesThen fun ended => ?_
  cases ended with
  | true => exact fun session => ⟨session.run, session.world, rfl, .atEnd⟩
  | false =>
      intro session
      obtain ⟨world, reached⟩ := scroll_run host target .down session
      refine ⟨session.run.countScroll, world, ?_, .scrolledOn⟩
      simp only [Bool.false_eq_true, ↓reduceIte, bind_apply, discard_apply]
      rcases ran : scroll host target .down session with ⟨fault | report, after⟩
      all_goals simpa [ran] using reached

theorem scrollTo_does (percent : Float) : Does (.scrollTo percent) (scrollTo host percent) := by
  intro session
  obtain ⟨world, reached⟩ :=
    acting_looks (host.page.scrollTo percent) .done { session with run := session.run.countScroll }
  exact ⟨_, world, reached, .scrolledTo⟩

theorem extractDetails_does (given : Option (List String)) :
    Does (.extractDetails given) (extractDetails host given) := by
  refine Looks.bindings.doesThen fun b => ?_
  extract_lets groups finish
  have finishes (found : String) : Does (.extractDetails given) (finish found) := by
    refine Looks.run.doesThen fun run => ?_
    extract_lets ownText content keep
    by_cases empty : content = ""
    · rw [if_pos empty]
      exact .throw _
    · rw [if_neg empty]
      exact .update fun _ _ => .extracted content empty
  exact .ite ((Looks.pure _).doesThen finishes) ((readPatiently_looks host _ _).doesThen finishes)

theorem save_does (label : String) : Does (.save label) (save host label) := by
  intro session
  simp only [save, bind_apply, get_apply]
  have nothing : Deed session.maxItems (.save label)
      (.failed "No current item or content to save" false) session.run session.run := .failed
  rcases current : session.run.current with _ | item
  · exact ⟨session.run, session.world, rfl, nothing⟩
  · rcases content : session.run.content with _ | text
    · exact ⟨session.run, session.world, rfl, nothing⟩
    · by_cases empty : text = ""
      · simp only [empty, ↓reduceIte]
        exact ⟨session.run, session.world, rfl, nothing⟩
      · simp only [empty, ↓reduceIte]
        exact ⟨_, session.world, rfl, .saved item text _ current content empty⟩

theorem markDone_does : Does .markDone (markDone : Interp σ Report) := by
  intro session
  rcases current : session.run.current with _ | item
  · refine ⟨session.run, session.world, ?_, ?_⟩
    · simp [markDone, bind_apply, current]
    · simpa [markDone, bind_apply, current] using Deed.ofFault _
  · refine ⟨session.run.markProcessed item.id, session.world, ?_, ?_⟩
    · simp [markDone, bind_apply, current]
    · simpa [markDone, bind_apply, current] using Deed.marked item current

theorem noteCount_does : Does .checkpointCount (noteCount host) :=
  (countItems_looks host).doesThen fun count => .update fun _ _ => .counted count

end Interp

/-!
## Plain commands
-/

/-- A plain command is counted, does one deed, and changes nothing else but the world. -/
theorem Command.run_deed (host : Host σ) {command : Command} (plain : command.isPlain = true)
    (session : Session σ) :
    ∃ run world, (command.run host session).2 = { session with run, world } ∧
      Deed session.maxItems command (command.run host session).1 session.run.countCommand run := by
  have done {body : Interp σ Report} (does : body.Does command) :
      ∃ run world, (report body session).2 = { session with run, world } ∧
        Deed session.maxItems command (report body session).1 session.run.countCommand run := by
    rw [report_apply]
    exact does { session with run := session.run.countCommand }
  have looked {body : Interp σ Report} (onlyLooks : command.onlyLooks = true)
      (looks : body.Looks) := done (looks.does onlyLooks)
  cases command with
  | openPage url => exact looked rfl (Interp.acting_looks _ _)
  | goBack => exact looked rfl (Interp.acting_looks _ _)
  | refresh => exact looked rfl (Interp.acting_looks _ _)
  | waitFor target => exact looked rfl (Interp.waitFor_looks host target)
  | wait seconds => exact looked rfl (Interp.acting_looks _ _)
  | goTo name => exact done (Interp.goTo_does host name)
  | goToFilter name => exact done (Interp.goToFilter_does host name)
  | goToItem which => exact done (Interp.goToItem_does host which)
  | type text => exact looked rfl (Interp.enterText_looks host text)
  | submit => exact looked rfl (Interp.acting_looks _ _)
  | click => exact looked rfl (Interp.click_looks host)
  | clickIfExists name => exact looked rfl (Interp.clickIfExists_looks host name)
  | select option => exact looked rfl (Interp.selectOption_looks host option)
  | clear => exact looked rfl (Interp.clear_looks host)
  | setChecked checked => exact looked rfl (Interp.setChecked_looks host checked)
  | scroll target direction => exact done (Interp.scroll_does host target direction)
  | scrollIfNotEnd target => exact done (Interp.scrollIfNotEnd_does host target)
  | scrollTo percent => exact done (Interp.scrollTo_does host percent)
  | extractDetails selectors => exact done (Interp.extractDetails_does host selectors)
  | save label => exact done (Interp.save_does host label)
  | markDone => exact done Interp.markDone_does
  | checkpointCount => exact done (Interp.noteCount_does host)
  | continueItem => exact done (.update fun _ _ => .skipped)
  | finish => exact done (.update fun _ _ => .finished)
  | forEachItem body skipProcessed => exact absurd plain Bool.false_ne_true
  | choose condition thenBranch elseBranch => exact absurd plain Bool.false_ne_true
  | repeatUntil body goal => exact absurd plain Bool.false_ne_true

/-- A command that depends on a binding runs no other commands. -/
theorem Command.isPlain_of_key {command : Command} (keyed : command.bindingKey?.isSome = true) :
    command.isPlain = true := by
  cases command <;> first | rfl | cases keyed

/-- No command that depends on a binding stops the run. -/
theorem Command.run_stopped_of_key (host : Host σ) {command : Command}
    (keyed : command.bindingKey?.isSome = true) (session : Session σ) :
    (command.run host session).2.run.stopped = session.run.stopped := by
  obtain ⟨run, world, reached, deed⟩ := command.run_deed host (isPlain_of_key keyed) session
  rw [reached]
  generalize (command.run host session).1 = outcome at deed
  cases deed with
  | saved => cases keyed
  | marked => cases keyed
  | finished => cases keyed
  | _ => rfl

end Bodies

end Gleaner
