import Gleaner.Run.Execute

/-!
# Programs that only look

Running a program of a session one operation at a time, and the programs that leave the
session as it was but for the world: every test of the page, every wait and every reading of
texts. What such a program does to the page is its own affair; the run, the bindings and the
deadline do not move.
-/

set_option autoImplicit false

namespace Gleaner.Interp

variable {σ α β : Type}

/-!
## One operation at a time
-/

theorem bind_apply (first : Interp σ α) (next : α → Interp σ β) (session : Session σ) :
    (first >>= next) session =
      match first session with
      | (.ok value, after) => next value after
      | (.error fault, after) => (.error fault, after) := by
  simp only [bind, ExceptT.bind, ExceptT.mk, ExceptT.bindCont, StateT.bind]
  rcases first session with ⟨fault | value, after⟩ <;> rfl

@[simp] theorem pure_apply (value : α) (session : Session σ) :
    (pure value : Interp σ α) session = (.ok value, session) := rfl

@[simp] theorem throw_apply (fault : Fault) (session : Session σ) :
    (throw fault : Interp σ α) session = (.error fault, session) := rfl

@[simp] theorem act_apply (action : Action σ α) (session : Session σ) :
    act action session =
      ((action session.world).1, { session with world := (action session.world).2 }) := rfl

@[simp] theorem run_apply (session : Session σ) :
    (run : Interp σ Run) session = (.ok session.run, session) := rfl

@[simp] theorem bindings_apply (session : Session σ) :
    (bindings : Interp σ PageBindings) session = (.ok session.bindings, session) := rfl

@[simp] theorem get_apply (session : Session σ) :
    (get : Interp σ (Session σ)) session = (.ok session, session) := rfl

@[simp] theorem update_apply (change : Run → Run) (session : Session σ) :
    (update change : Interp σ Unit) session =
      (.ok (), { session with run := change session.run }) := rfl

@[simp] theorem map_apply (f : α → β) (first : Interp σ α) (session : Session σ) :
    (f <$> first) session =
      match first session with
      | (.ok value, after) => (.ok (f value), after)
      | (.error fault, after) => (.error fault, after) := by
  have same : f <$> first = first >>= fun value => pure (f value) := rfl
  rw [same, bind_apply]
  rfl

@[simp] theorem discard_apply (first : Interp σ α) (session : Session σ) :
    discard first session =
      match first session with
      | (.ok _, after) => (.ok (), after)
      | (.error fault, after) => (.error fault, after) :=
  map_apply _ _ _

@[simp] theorem liftExcept_apply (result : Except Fault α) (session : Session σ) :
    (liftM result : Interp σ α) session = (result, session) := by
  cases result <;> rfl

theorem liftState_apply (prog : StateM (Session σ) α) (session : Session σ) :
    (liftM prog : Interp σ α) session = (.ok (prog session).1, (prog session).2) := rfl

@[simp] theorem overdue_apply (session : Session σ) :
    (liftM (overdue : StateM (Session σ) Bool) : Interp σ Bool) session =
      (.ok session.checkTime.run.stopped, session.checkTime) := rfl

/-!
## Looking
-/

/-- The program changes nothing but the world. -/
def Looks (prog : Interp σ α) : Prop :=
  ∀ session, ∃ world, (prog session).2 = { session with world }

namespace Looks

theorem pure (value : α) : Looks (Pure.pure value : Interp σ α) :=
  fun session => ⟨session.world, rfl⟩

theorem throw (fault : Fault) : Looks (MonadExcept.throw fault : Interp σ α) :=
  fun session => ⟨session.world, rfl⟩

theorem act (action : Action σ α) : Looks (Interp.act action) :=
  fun session => ⟨(action session.world).2, rfl⟩

theorem run : Looks (Interp.run : Interp σ Run) :=
  fun session => ⟨session.world, rfl⟩

theorem bindings : Looks (Interp.bindings : Interp σ PageBindings) :=
  fun session => ⟨session.world, rfl⟩

theorem get : Looks (MonadState.get : Interp σ (Session σ)) :=
  fun session => ⟨session.world, rfl⟩

theorem liftExcept (result : Except Fault α) : Looks (liftM result : Interp σ α) :=
  fun session => ⟨session.world, by rw [liftExcept_apply]⟩

theorem bind {first : Interp σ α} {next : α → Interp σ β} (looks : Looks first)
    (nextLooks : ∀ value, Looks (next value)) : Looks (first >>= next) := by
  intro session
  obtain ⟨middle, reached⟩ := looks session
  rw [bind_apply]
  cases ran : first session with
  | mk result after =>
      have same : after = { session with world := middle } := by simpa [ran] using reached
      cases result with
      | error fault => exact ⟨middle, same⟩
      | ok value =>
          obtain ⟨world, final⟩ := nextLooks value after
          exact ⟨world, by simpa [same] using final⟩

theorem map {first : Interp σ α} (f : α → β) (looks : Looks first) : Looks (f <$> first) := by
  have same : f <$> first = first >>= fun value => Pure.pure (f value) := rfl
  rw [same]
  exact looks.bind fun value => .pure _

theorem discard {first : Interp σ α} (looks : Looks first) : Looks (discard first) :=
  looks.map _

theorem ite {condition : Prop} [Decidable condition] {first second : Interp σ α}
    (looks : Looks first) (otherLooks : Looks second) :
    Looks (if condition then first else second) := by
  split
  · exact looks
  · exact otherLooks

end Looks

/-!
## Conditions
-/

variable (host : Host σ)

mutual

theorem holds_looks (condition : StateCondition) : Looks (holds host condition) := by
  cases condition with
  | present selector => exact .act _
  | visible selector => exact .act _
  | gone selector => exact (Looks.act _).bind fun _ => .pure _
  | countChanged selector => exact (Looks.act _).bind fun _ => Looks.run.bind fun _ => .pure _
  | countAtLeast selector least => exact (Looks.act _).bind fun _ => .pure _
  | urlContains text => exact Looks.get.bind fun _ => .pure _
  | urlMatches pattern => exact Looks.get.bind fun _ => .liftExcept _
  | allOf parts => exact allHold_looks parts
  | anyOf parts => exact anyHolds_looks parts

theorem allHold_looks (parts : List StateCondition) : Looks (allHold host parts) := by
  cases parts with
  | nil => exact .pure _
  | cons part rest =>
      exact (holds_looks part).bind fun _ => .ite (allHold_looks rest) (.pure _)

theorem anyHolds_looks (parts : List StateCondition) : Looks (anyHolds host parts) := by
  cases parts with
  | nil => exact .pure _
  | cons part rest =>
      exact (holds_looks part).bind fun _ => .ite (.pure _) (anyHolds_looks rest)

end

theorem countItems_looks : Looks (countItems host) :=
  Looks.bindings.bind fun _ => .ite (.pure _) (.act _)

theorem atPageEnd_looks : Looks (atPageEnd host) :=
  (Looks.act _).bind fun _ => .pure _

theorem lookFor_looks (test : String → Action σ Bool) (name : String) :
    Looks (lookFor test name) := by
  refine Looks.bindings.bind fun b => ?_
  cases b.selectorFor? name with
  | none => exact .pure _
  | some selector => exact .ite (.pure _) (.act _)

mutual

theorem evaluate_looks (condition : Condition) : Looks (evaluate host condition) := by
  cases condition with
  | present name => exact lookFor_looks _ name
  | visible name => exact lookFor_looks _ name
  | listEnd => exact atPageEnd_looks host
  | pageEnd => exact atPageEnd_looks host
  | newItems => exact (countItems_looks host).bind fun _ => Looks.run.bind fun _ => .pure _
  | not inner => exact (evaluate_looks inner).bind fun _ => .pure _
  | all parts => exact evaluateAll_looks parts
  | any parts => exact evaluateAny_looks parts

theorem evaluateAll_looks (parts : List Condition) : Looks (evaluateAll host parts) := by
  cases parts with
  | nil => exact .pure _
  | cons part rest =>
      exact (evaluate_looks part).bind fun _ => .ite (evaluateAll_looks rest) (.pure _)

theorem evaluateAny_looks (parts : List Condition) : Looks (evaluateAny host parts) := by
  cases parts with
  | nil => exact .pure _
  | cons part rest =>
      exact (evaluate_looks part).bind fun _ => .ite (.pure _) (evaluateAny_looks rest)

end

theorem noMoreItems_looks : Looks (noMoreItems host) := by
  refine Looks.bindings.bind fun b => ?_
  cases b.states.noMoreItems with
  | none => exact .pure _
  | some condition => exact holds_looks host condition

mutual

theorem reached_looks (before : Nat) (goal : Until) : Looks (reached host before goal) := by
  cases goal with
  | collected count => exact Looks.run.bind fun _ => .pure _
  | noMoreItems => exact Looks.run.bind fun _ => .ite (.pure _) (noMoreItems_looks host)
  | maxScrolls count => exact Looks.run.bind fun _ => .pure _
  | all parts => exact allReached_looks before parts
  | any parts => exact anyReached_looks before parts

theorem allReached_looks (before : Nat) (parts : List Until) :
    Looks (allReached host before parts) := by
  cases parts with
  | nil => exact .pure _
  | cons part rest =>
      exact (reached_looks before part).bind fun _ => .ite (allReached_looks before rest) (.pure _)

theorem anyReached_looks (before : Nat) (parts : List Until) :
    Looks (anyReached host before parts) := by
  cases parts with
  | nil => exact .pure _
  | cons part rest =>
      exact (reached_looks before part).bind fun _ => .ite (.pure _) (anyReached_looks before rest)

end

/-!
## Waits
-/

theorem pollUntil_looks {check : Interp σ Bool} (looks : Looks check) (deadline : Deadline σ)
    (left : Nat) : Looks (pollUntil host check deadline left) := by
  induction left with
  | zero => exact .pure _
  | succ left ih =>
      refine looks.bind fun _ => .ite (.pure _) (Looks.get.bind fun _ => .ite (.pure _) ?_)
      exact (Looks.act _).bind fun _ => ih

theorem poll_looks {check : Interp σ Bool} (looks : Looks check) (timeoutMs : Nat) :
    Looks (poll host check timeoutMs) :=
  Looks.get.bind fun _ => (Looks.liftExcept _).bind fun _ => pollUntil_looks host looks _ _

theorem waitUntil_looks (condition : StateCondition) : Looks (waitUntil host condition) :=
  (poll_looks host (holds_looks host condition) _).bind fun _ => .ite (.pure _) (.throw _)

theorem waitForDetails_looks (b : PageBindings) : Looks (waitForDetails host b) := by
  have settled (condition : StateCondition) : Looks (do
      waitUntil host condition
      Interp.act (host.clock.pause (.ofMs host.settings.detailsSettleMs))
      return Report.awaited .details) :=
    (waitUntil_looks host _).bind fun _ => (Looks.act _).bind fun _ => .pure _
  unfold waitForDetails
  refine .ite ((Looks.act _).bind fun _ => .pure _) ?_
  cases b.states.loading with
  | none => exact settled _
  | some loading =>
      have gone := (holds_looks host loading).bind fun held => Looks.pure (!held)
      exact (poll_looks host gone _).discard.bind fun _ => settled _

theorem waitFor_looks (target : WaitTarget) : Looks (waitFor host target) := by
  have usual (condition : String → StateCondition) (b : PageBindings) : Looks (do
      let selector ← liftM b.itemSelector
      waitUntil host (condition selector)
      return Report.awaited target) :=
    (Looks.liftExcept _).bind fun _ => (waitUntil_looks host _).bind fun _ => .pure _
  refine Looks.bindings.bind fun b => ?_
  cases target with
  | page => exact (waitUntil_looks host _).bind fun _ => .pure _
  | list =>
      cases b.states.listLoaded with
      | none => exact usual .present b
      | some condition => exact (waitUntil_looks host condition).bind fun _ => .pure _
  | listUpdate =>
      cases b.states.listUpdated with
      | none => exact usual .countChanged b
      | some condition => exact (waitUntil_looks host condition).bind fun _ => .pure _
  | details => exact waitForDetails_looks host b

/-!
## Items, texts and acts on the page
-/

theorem listItems_looks : Looks (listItems host) :=
  Looks.bindings.bind fun _ => (Looks.liftExcept _).bind fun _ => .act _

theorem chooseItem_looks (items : List ListItem) (first : ListItem) (which : ItemChoice) :
    Looks (chooseItem items first which : Interp σ CurrentItem) := by
  refine Looks.bindings.bind fun b => Looks.run.bind fun run => ?_
  cases which with
  | first => exact .liftExcept _
  | next =>
      cases found : items[(run.currentIndex + 1).toNat]? with
      | none => simpa only [found] using Looks.throw _
      | some item => simpa only [found] using Looks.liftExcept _
  | current =>
      cases found : run.current with
      | none => simpa only [found] using Looks.throw _
      | some current => simpa only [found] using Looks.pure _
  | unprocessed =>
      refine (Looks.liftExcept _).bind fun found => ?_
      cases found with
      | none => exact .throw _
      | some current => exact .pure _

theorem readGroup_looks (group : List String) : Looks (readGroup host group) := by
  induction group with
  | nil => exact .pure _
  | cons selector rest ih => exact (Looks.act _).bind fun _ => ih.bind fun _ => .pure _

theorem readGroups_looks (groups : List (List String)) : Looks (readGroups host groups) := by
  induction groups with
  | nil => exact .pure _
  | cons group rest ih => exact (readGroup_looks host group).bind fun _ => .ite ih (.pure _)

theorem readPatiently_looks (groups : List (List String)) (tries : Nat) :
    Looks (readPatiently host groups tries) := by
  induction tries with
  | zero => exact .pure _
  | succ tries ih =>
      exact (readGroups_looks host groups).bind fun _ =>
        .ite ((Looks.act _).bind fun _ => ih) (.pure _)

theorem acting_looks (action : Action σ Unit) (answer : Report) : Looks (acting action answer) :=
  (Looks.act _).bind fun _ => .pure _

theorem focused_looks (action : String) : Looks (focused action : Interp σ ElementRef) := by
  refine Looks.run.bind fun run => ?_
  cases run.focus with
  | none => exact .throw _
  | some ref => exact .pure _

theorem click_looks : Looks (click host) := by
  refine (focused_looks _).bind fun ref => Looks.run.bind fun run => ?_
  have pressed : Looks (do
      if ← act (host.page.click ref) then return Report.clicked true
      throw (.elementNotFound ("Element not found: " ++ ref.describe) ref.base)) :=
    (Looks.act _).bind fun _ => .ite (.pure _) (.throw _)
  exact Looks.bindings.bind fun b => .ite (.pure _) pressed

theorem clickIfExists_looks (name : String) : Looks (clickIfExists host name) :=
  (lookFor_looks _ _).bind fun _ =>
    .ite (Looks.bindings.bind fun _ => (Looks.act _).bind fun _ => .pure _) (.pure _)

theorem enterText_looks (text : String) : Looks (enterText host text) :=
  (focused_looks _).bind fun _ => acting_looks _ _

theorem clear_looks : Looks (clear host) :=
  (Looks.act _).bind fun _ => (Looks.act _).bind fun _ => .pure _

theorem selectOption_looks (option : String) : Looks (selectOption host option) :=
  (focused_looks _).bind fun _ => (Looks.act _).bind fun _ => .ite (.pure _) (.throw _)

theorem setChecked_looks (checked : Bool) : Looks (setChecked host checked) :=
  (focused_looks _).bind fun _ => (Looks.act _).bind fun _ =>
    .ite ((Looks.act _).discard.bind fun _ => .pure _) (.pure _)

end Gleaner.Interp

/-!
## Asking for a patch
-/

namespace Gleaner.Session

variable {σ α β : Type}

theorem bind_apply (first : StateM (Session σ) α) (next : α → StateM (Session σ) β)
    (session : Session σ) :
    (first >>= next) session = next (first session).1 (first session).2 := rfl

@[simp] theorem modify_apply (change : Session σ → Session σ) (session : Session σ) :
    (modify change : StateM (Session σ) Unit) session = ((), change session) := rfl

@[simp] theorem pure_apply (value : α) (session : Session σ) :
    (pure value : StateM (Session σ) α) session = (value, session) := rfl

@[simp] theorem get_apply (session : Session σ) :
    (get : StateM (Session σ) (Session σ)) session = (session, session) := rfl

/-- The program always ends and changes nothing but the world. -/
def Watches (prog : StateM (Session σ) α) : Prop :=
  ∀ session, ∃ world, (prog session).2 = { session with world }

namespace Watches

theorem pure (value : α) : Watches (Pure.pure value : StateM (Session σ) α) :=
  fun session => ⟨session.world, rfl⟩

theorem get : Watches (MonadState.get : StateM (Session σ) (Session σ)) :=
  fun session => ⟨session.world, rfl⟩

theorem observe (action : Action σ α) : Watches (Session.observe action) :=
  fun session => ⟨(action session.world).2, rfl⟩

theorem bind {first : StateM (Session σ) α} {next : α → StateM (Session σ) β}
    (watches : Watches first) (nextWatches : ∀ value, Watches (next value)) :
    Watches (first >>= next) := by
  intro session
  obtain ⟨middle, reached⟩ := watches session
  obtain ⟨world, final⟩ := nextWatches (first session).1 (first session).2
  refine ⟨world, final.trans ?_⟩
  rw [reached]

end Watches

theorem domText_watches (host : Host σ) : Watches (domText host) := by
  refine (Watches.observe _).bind fun seen => ?_
  cases seen with
  | ok state => exact .pure _
  | error fault => exact .pure _

theorem proposal_watches (host : Host σ) (command : Command) (failure : Outcome) :
    Watches (proposal host command failure) := by
  unfold proposal
  split
  next =>
      refine Watches.get.bind fun session => (domText_watches host).bind fun dom =>
        (Watches.observe _).bind fun answer => ?_
      rcases answer with fault | _ | changes
      · exact .pure _
      · exact .pure _
      · exact .pure _
  next => exact .pure _

/-- Nothing is proposed where there is nothing to repair, or nobody to ask. -/
theorem proposal_unasked {host : Host σ} {command : Command} {error : String} {repairable : Bool}
    (unasked : repairable = false ∨ command.bindingKey? = none ∨ host.repairer = none) :
    proposal host command (.failed error repairable) = pure [] := by
  unfold proposal
  split
  next same keyed repairer =>
    rcases unasked with rfl | unkeyed | none
    · cases same
    · cases unkeyed.symm.trans keyed
    · cases none.symm.trans repairer
  next => rfl

/-- A patch is proposed only for a command that depends on a binding. -/
theorem bindingKey_of_proposal {host : Host σ} {command : Command} {failure : Outcome}
    {session : Session σ} (proposed : (proposal host command failure session).1 ≠ []) :
    command.bindingKey?.isSome = true := by
  cases keyed : command.bindingKey? with
  | some key => rfl
  | none =>
      have nothing : proposal host command failure = pure [] := by
        cases failure with
        | ok report => rfl
        | failed error repairable => exact proposal_unasked (.inr (.inl keyed))
      rw [nothing] at proposed
      exact absurd rfl proposed

section Patching

variable {clock : Clock σ} {changes : Fields} {session patched : Session σ}

theorem patch_eq_map (clock : Clock σ) (changes : Fields) (session : Session σ) :
    session.patch clock changes =
      (session.bindings.merge (clock.time session.world) changes).map fun bindings =>
        { session with bindings } := by
  unfold patch
  cases session.bindings.merge (clock.time session.world) changes <;> rfl

/-- A patch that is accepted merges into the bindings, and changes nothing else. -/
theorem patch_merges (accepted : session.patch clock changes = .ok patched) :
    ∃ bindings, session.bindings.merge (clock.time session.world) changes = .ok bindings ∧
      patched = { session with bindings } := by
  rw [patch_eq_map] at accepted
  cases merged : session.bindings.merge (clock.time session.world) changes with
  | error fault =>
      rw [merged] at accepted
      cases accepted
  | ok bindings =>
      rw [merged] at accepted
      cases accepted
      exact ⟨bindings, rfl, rfl⟩

theorem patch_bindings (accepted : session.patch clock changes = .ok patched) :
    ∃ bindings, patched = { session with bindings } := by
  obtain ⟨bindings, -, rfl⟩ := patch_merges accepted
  exact ⟨bindings, rfl⟩

end Patching

end Gleaner.Session
