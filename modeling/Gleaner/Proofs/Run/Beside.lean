import Gleaner.Proofs.Run.Deed
import Mathlib.Data.List.Forall2

/-!
# Something beside the world

A world may have something beside it that the page and the clock do not know of. Whatever a
command does, with all the commands inside it, it does the same there, and it leaves what is
beside the world as it was: only a repairer could change it, and no command asks one.
-/

set_option autoImplicit false

namespace Gleaner

variable {σ α β L : Type}

/-- An action on a world that has something beside it. -/
def Action.beside (action : Action σ α) : Action (σ × L) α := fun (world, kept) =>
  ((action world).1, (action world).2, kept)

def Page.beside (L : Type) (page : Page σ) : Page (σ × L) :=
  { url := fun world => page.url world.1
    navigate := fun url => (page.navigate url).beside
    back := page.back.beside
    reload := page.reload.beside
    click := fun ref => (page.click ref).beside
    enterText := fun ref text => (page.enterText ref text).beside
    selectOption := fun ref option => (page.selectOption ref option).beside
    isChecked := fun ref => (page.isChecked ref).beside
    sendKeys := fun keys => (page.sendKeys keys).beside
    scrollDown := fun container => (page.scrollDown container).beside
    scrollUp := fun container => (page.scrollUp container).beside
    scrollTo := fun percent => (page.scrollTo percent).beside
    isPresent := fun selector => (page.isPresent selector).beside
    isVisible := fun selector => (page.isVisible selector).beside
    count := fun selector => (page.count selector).beside
    items := fun selector idSelector attrName => (page.items selector idSelector attrName).beside
    texts := fun selector => (page.texts selector).beside
    state := page.state.beside
    snapshot := page.snapshot.beside }

def Clock.beside (L : Type) (clock : Clock σ) : Clock (σ × L) :=
  { time := fun world => clock.time world.1
    deadline := fun timeoutMs world =>
      (clock.deadline timeoutMs world.1).map fun reached later => reached later.1
    pause := fun span => (clock.pause span).beside }

/-- A host for worlds with something beside them, with a repairer of their own. -/
def Host.beside (repairer : Option (Repairer (σ × L))) (host : Host σ) : Host (σ × L) :=
  { page := host.page.beside L, clock := host.clock.beside L, settings := host.settings, repairer }

def Session.beside (kept : L) (session : Session σ) : Session (σ × L) :=
  { run := session.run
    bindings := session.bindings
    maxItems := session.maxItems
    deadline := session.deadline.map fun reached world => reached world.1
    timedOut := session.timedOut
    world := (session.world, kept) }

theorem Session.checkTime_beside (kept : L) (session : Session σ) :
    (session.beside kept).checkTime = session.checkTime.beside kept := by
  rcases session with ⟨run, bindings, maxItems, _ | reached, timedOut, world⟩
  · rfl
  · cases late : !run.stopped && reached world <;>
      simp [checkTime, beside, late]

/-- A program that does beside something what another one does without, and leaves it. -/
def Framed (framed : Session (σ × L) → α × Session (σ × L)) (prog : Session σ → α × Session σ) :
    Prop :=
  ∀ kept session, framed (session.beside kept) = ((prog session).1, (prog session).2.beside kept)

namespace Framed

theorem pure (value : α) :
    Framed (Pure.pure value : StateM (Session (σ × L)) α) (Pure.pure value : StateM (Session σ) α) :=
  fun _ _ => rfl

theorem bind {framed : StateM (Session (σ × L)) α} {prog : StateM (Session σ) α}
    {framedNext : α → StateM (Session (σ × L)) β} {next : α → StateM (Session σ) β}
    (first : Framed framed prog) (rest : ∀ value, Framed (framedNext value) (next value)) :
    Framed (framed >>= framedNext) (prog >>= next) := by
  intro kept session
  rw [Session.bind_apply, Session.bind_apply, first kept session]
  exact rest _ _ _

/-- A program that asks for the session is framed if it is so whatever the session is. -/
theorem get {framedNext : Session (σ × L) → StateM (Session (σ × L)) β}
    {next : Session σ → StateM (Session σ) β}
    (rest : ∀ kept session, Framed (framedNext (session.beside kept)) (next session)) :
    Framed (MonadState.get >>= framedNext) (MonadState.get >>= next) :=
  fun kept session => rest kept session kept session

theorem ite {condition : Prop} [Decidable condition]
    {framed framedElse : Session (σ × L) → α × Session (σ × L)}
    {prog progElse : Session σ → α × Session σ} (first : Framed framed prog)
    (second : Framed framedElse progElse) :
    Framed (if condition then framed else framedElse) (if condition then prog else progElse) := by
  split
  · exact first
  · exact second

/-!
## Programs that may fail
-/

theorem ok (value : α) :
    Framed (Pure.pure value : Interp (σ × L) α) (Pure.pure value : Interp σ α) :=
  fun _ _ => rfl

theorem throw (fault : Fault) :
    Framed (MonadExcept.throw fault : Interp (σ × L) α) (MonadExcept.throw fault : Interp σ α) :=
  fun _ _ => rfl

theorem act (action : Action σ α) :
    Framed (Interp.act (action.beside : Action (σ × L) α)) (Interp.act action) :=
  fun _ _ => rfl

theorem run : Framed (Interp.run : Interp (σ × L) Run) Interp.run :=
  fun _ _ => rfl

theorem bindings : Framed (Interp.bindings : Interp (σ × L) PageBindings) Interp.bindings :=
  fun _ _ => rfl

theorem update (change : Run → Run) :
    Framed (Interp.update change : Interp (σ × L) Unit) (Interp.update change) :=
  fun _ _ => rfl

theorem liftExcept (result : Except Fault α) :
    Framed (liftM result : Interp (σ × L) α) (liftM result : Interp σ α) := by
  intro kept session
  rw [Interp.liftExcept_apply, Interp.liftExcept_apply]

theorem bindOk {framed : Interp (σ × L) α} {prog : Interp σ α}
    {framedNext : α → Interp (σ × L) β} {next : α → Interp σ β} (first : Framed framed prog)
    (rest : ∀ value, Framed (framedNext value) (next value)) :
    Framed (framed >>= framedNext : Interp (σ × L) β) (prog >>= next : Interp σ β) := by
  intro kept session
  rw [Interp.bind_apply, Interp.bind_apply, first kept session]
  rcases prog session with ⟨fault | value, after⟩
  · rfl
  · exact rest value kept after

theorem getOk {framedNext : Session (σ × L) → Interp (σ × L) β} {next : Session σ → Interp σ β}
    (rest : ∀ kept session, Framed (framedNext (session.beside kept)) (next session)) :
    Framed (MonadState.get >>= framedNext : Interp (σ × L) β)
      (MonadState.get >>= next : Interp σ β) :=
  fun kept session => rest kept session kept session

theorem discard {framed : Interp (σ × L) α} {prog : Interp σ α} (first : Framed framed prog) :
    Framed (Functor.discard framed) (Functor.discard prog) :=
  bindOk first fun _ => .ok ()

theorem lift {framed : StateM (Session (σ × L)) α} {prog : StateM (Session σ) α}
    (first : Framed framed prog) :
    Framed (liftM framed : Interp (σ × L) α) (liftM prog : Interp σ α) :=
  @Framed.bind _ _ _ _ _ _ (fun value => Pure.pure (Except.ok value))
    (fun value => Pure.pure (Except.ok value)) first fun _ => .pure _

end Framed

namespace Interp

variable (host : Host σ) (repairer : Option (Repairer (σ × L)))

/-!
## Conditions
-/

mutual

theorem holds_framed (condition : StateCondition) :
    Framed (holds (host.beside repairer) condition) (holds host condition) := by
  cases condition with
  | present selector => exact .act _
  | visible selector => exact .act _
  | gone selector => exact .bindOk (.act _) fun _ => .ok _
  | countChanged selector => exact .bindOk (.act _) fun _ => .bindOk .run fun _ => .ok _
  | countAtLeast selector least => exact .bindOk (.act _) fun _ => .ok _
  | urlContains text => exact .getOk fun _ _ => .ok _
  | urlMatches pattern => exact .getOk fun _ _ => .liftExcept _
  | allOf parts => exact allHold_framed parts
  | anyOf parts => exact anyHolds_framed parts

theorem allHold_framed (parts : List StateCondition) :
    Framed (allHold (host.beside repairer) parts) (allHold host parts) := by
  cases parts with
  | nil => exact .ok _
  | cons part rest =>
      exact .bindOk (holds_framed part) fun _ => .ite (allHold_framed rest) (.ok _)

theorem anyHolds_framed (parts : List StateCondition) :
    Framed (anyHolds (host.beside repairer) parts) (anyHolds host parts) := by
  cases parts with
  | nil => exact .ok _
  | cons part rest =>
      exact .bindOk (holds_framed part) fun _ => .ite (.ok _) (anyHolds_framed rest)

end

theorem countItems_framed : Framed (countItems (host.beside repairer)) (countItems host) :=
  .bindOk .bindings fun _ => .ite (.ok _) (.act _)

theorem atPageEnd_framed : Framed (atPageEnd (host.beside repairer)) (atPageEnd host) :=
  .bindOk (.act _) fun _ => .ok _

theorem lookFor_framed (test : String → Action σ Bool) (name : String) :
    Framed (lookFor (fun selector => (test selector).beside : String → Action (σ × L) Bool) name)
      (lookFor test name) := by
  refine .bindOk .bindings fun b => ?_
  cases b.selectorFor? name with
  | none => exact .ok _
  | some selector => exact .ite (.ok _) (.act _)

mutual

theorem evaluate_framed (condition : Condition) :
    Framed (evaluate (host.beside repairer) condition) (evaluate host condition) := by
  cases condition with
  | present name => exact lookFor_framed _ name
  | visible name => exact lookFor_framed _ name
  | listEnd => exact atPageEnd_framed host repairer
  | pageEnd => exact atPageEnd_framed host repairer
  | newItems => exact .bindOk (countItems_framed host repairer) fun _ => .bindOk .run fun _ => .ok _
  | not inner => exact .bindOk (evaluate_framed inner) fun _ => .ok _
  | all parts => exact evaluateAll_framed parts
  | any parts => exact evaluateAny_framed parts

theorem evaluateAll_framed (parts : List Condition) :
    Framed (evaluateAll (host.beside repairer) parts) (evaluateAll host parts) := by
  cases parts with
  | nil => exact .ok _
  | cons part rest =>
      exact .bindOk (evaluate_framed part) fun _ => .ite (evaluateAll_framed rest) (.ok _)

theorem evaluateAny_framed (parts : List Condition) :
    Framed (evaluateAny (host.beside repairer) parts) (evaluateAny host parts) := by
  cases parts with
  | nil => exact .ok _
  | cons part rest =>
      exact .bindOk (evaluate_framed part) fun _ => .ite (.ok _) (evaluateAny_framed rest)

end

theorem noMoreItems_framed : Framed (noMoreItems (host.beside repairer)) (noMoreItems host) := by
  refine .bindOk .bindings fun b => ?_
  cases b.states.noMoreItems with
  | none => exact .ok _
  | some condition => exact holds_framed host repairer condition

mutual

theorem reached_framed (before : Nat) (goal : Until) :
    Framed (reached (host.beside repairer) before goal) (reached host before goal) := by
  cases goal with
  | collected count => exact .bindOk .run fun _ => .ok _
  | noMoreItems =>
      exact .bindOk .run fun _ => .ite (.ok _) (noMoreItems_framed host repairer)
  | maxScrolls count => exact .bindOk .run fun _ => .ok _
  | all parts => exact allReached_framed before parts
  | any parts => exact anyReached_framed before parts

theorem allReached_framed (before : Nat) (parts : List Until) :
    Framed (allReached (host.beside repairer) before parts) (allReached host before parts) := by
  cases parts with
  | nil => exact .ok _
  | cons part rest =>
      exact .bindOk (reached_framed before part) fun _ => .ite (allReached_framed before rest) (.ok _)

theorem anyReached_framed (before : Nat) (parts : List Until) :
    Framed (anyReached (host.beside repairer) before parts) (anyReached host before parts) := by
  cases parts with
  | nil => exact .ok _
  | cons part rest =>
      exact .bindOk (reached_framed before part) fun _ => .ite (.ok _) (anyReached_framed before rest)

end

/-!
## Waits
-/

theorem pollUntil_framed {framed : Interp (σ × L) Bool} {check : Interp σ Bool}
    (checks : Framed framed check) (deadline : Deadline σ) (left : Nat) :
    Framed (pollUntil (host.beside repairer) framed (fun world => deadline world.1) left)
      (pollUntil host check deadline left) := by
  induction left with
  | zero => exact .ok _
  | succ left ih =>
      refine .bindOk checks fun _ => .ite (.ok _) (.getOk fun _ _ => .ite (.ok _) ?_)
      exact .bindOk (.act _) fun _ => ih

theorem poll_framed {framed : Interp (σ × L) Bool} {check : Interp σ Bool}
    (checks : Framed framed check) (timeoutMs : Nat) :
    Framed (poll (host.beside repairer) framed timeoutMs) (poll host check timeoutMs) := by
  refine .getOk fun kept session => ?_
  have told : (host.beside repairer).clock.deadline timeoutMs (session.beside kept).world =
      (host.clock.deadline timeoutMs session.world).map fun reached later => reached later.1 := rfl
  rw [told]
  rcases host.clock.deadline timeoutMs session.world with fault | deadline
  · exact fun _ _ => rfl
  · exact fun kept session => pollUntil_framed host repairer checks deadline _ kept session

theorem waitUntil_framed (condition : StateCondition) :
    Framed (waitUntil (host.beside repairer) condition) (waitUntil host condition) :=
  .bindOk (poll_framed host repairer (holds_framed host repairer condition) _) fun _ =>
    .ite (.ok _) (.throw _)

theorem waitForDetails_framed (b : PageBindings) :
    Framed (waitForDetails (host.beside repairer) b) (waitForDetails host b) := by
  have settled (condition : StateCondition) : Framed (do
      waitUntil (host.beside repairer) condition
      Interp.act ((host.beside repairer).clock.pause (.ofMs host.settings.detailsSettleMs))
      return Report.awaited .details : Interp (σ × L) Report) (do
      waitUntil host condition
      Interp.act (host.clock.pause (.ofMs host.settings.detailsSettleMs))
      return Report.awaited .details : Interp σ Report) :=
    .bindOk (waitUntil_framed host repairer _) fun _ => .bindOk (.act _) fun _ => .ok _
  unfold waitForDetails
  refine .ite (.bindOk (.act _) fun _ => .ok _) ?_
  cases b.states.loading with
  | none => exact settled _
  | some loading =>
      refine .bindOk (.discard (poll_framed host repairer ?_ _)) fun _ => settled _
      exact .bindOk (holds_framed host repairer loading) fun _ => .ok _

theorem waitFor_framed (target : WaitTarget) :
    Framed (waitFor (host.beside repairer) target) (waitFor host target) := by
  have waits (condition : StateCondition) := waitUntil_framed host repairer condition
  refine .bindOk .bindings fun b => ?_
  cases target with
  | page => exact .bindOk (waits _) fun _ => .ok _
  | list =>
      cases b.states.listLoaded with
      | none => exact .bindOk (.liftExcept _) fun _ => .bindOk (waits _) fun _ => .ok _
      | some condition => exact .bindOk (waits condition) fun _ => .ok _
  | listUpdate =>
      cases b.states.listUpdated with
      | none => exact .bindOk (.liftExcept _) fun _ => .bindOk (waits _) fun _ => .ok _
      | some condition => exact .bindOk (waits condition) fun _ => .ok _
  | details => exact waitForDetails_framed host repairer b

/-!
## Items and texts
-/

theorem listItems_framed : Framed (listItems (host.beside repairer)) (listItems host) :=
  .bindOk .bindings fun _ => .bindOk (.liftExcept _) fun _ => .act _

theorem chooseItem_framed (items : List ListItem) (first : ListItem) (which : ItemChoice) :
    Framed (chooseItem items first which : Interp (σ × L) CurrentItem)
      (chooseItem items first which : Interp σ CurrentItem) := by
  refine .bindOk .bindings fun b => .bindOk .run fun run => ?_
  cases which with
  | first => exact .liftExcept _
  | next =>
      cases found : items[(run.currentIndex + 1).toNat]? with
      | none => simpa only [found] using Framed.throw _
      | some item => simpa only [found] using Framed.liftExcept _
  | current =>
      cases found : run.current with
      | none => simpa only [found] using Framed.throw _
      | some current => simpa only [found] using Framed.ok _
  | unprocessed =>
      refine .bindOk (.liftExcept _) fun found => ?_
      cases found with
      | none => exact .throw _
      | some current => exact .ok _

theorem goToItem_framed (which : ItemChoice) :
    Framed (goToItem (host.beside repairer) which) (goToItem host which) := by
  refine .bindOk (listItems_framed host repairer) fun items => ?_
  cases items with
  | nil => exact .bindOk .bindings fun _ => .throw _
  | cons first rest =>
      refine .bindOk (chooseItem_framed _ _ _) fun chosen => ?_
      exact .ite (.bindOk (.update _) fun _ => .ok _) (.bindOk (.update _) fun _ => .ok _)

theorem readGroup_framed (group : List String) :
    Framed (readGroup (host.beside repairer) group) (readGroup host group) := by
  induction group with
  | nil => exact .ok _
  | cons selector rest ih => exact .bindOk (.act _) fun _ => .bindOk ih fun _ => .ok _

theorem readGroups_framed (groups : List (List String)) :
    Framed (readGroups (host.beside repairer) groups) (readGroups host groups) := by
  induction groups with
  | nil => exact .ok _
  | cons group rest ih =>
      exact .bindOk (readGroup_framed host repairer group) fun _ => .ite ih (.ok _)

theorem readPatiently_framed (groups : List (List String)) (tries : Nat) :
    Framed (readPatiently (host.beside repairer) groups tries) (readPatiently host groups tries) := by
  induction tries with
  | zero => exact .ok _
  | succ tries ih =>
      exact .bindOk (readGroups_framed host repairer groups) fun _ =>
        .ite (.bindOk (.act _) fun _ => ih) (.ok _)

theorem extractDetails_framed (given : Option (List String)) :
    Framed (extractDetails (host.beside repairer) given) (extractDetails host given) := by
  refine .bindOk .bindings fun b => ?_
  extract_lets groups framedFinish finish
  have finishes (found : String) : Framed (framedFinish found) (finish found) := by
    refine .bindOk .run fun run => ?_
    extract_lets ownText content keep
    exact .ite (.bindOk (.throw _) fun _ => .bindOk (.update _) fun _ => .ok _)
      (.bindOk (.update _) fun _ => .ok _)
  exact .ite (.bindOk (.ok _) finishes)
    (.bindOk (readPatiently_framed host repairer _ _) finishes)

theorem save_framed (label : String) :
    Framed (save (host.beside repairer) label) (save host label) := by
  refine .getOk fun kept session => ?_
  have current : (session.beside kept).run.current = session.run.current := rfl
  have content : (session.beside kept).run.content = session.run.content := rfl
  rw [current, content]
  rcases session.run.current with _ | current
  · exact .throw _
  · rcases session.run.content with _ | content
    · exact .throw _
    · exact .ite (.throw _) (.bindOk (.update _) fun _ => .bindOk .run fun _ => .ok _)

theorem markDone_framed :
    Framed (markDone : Interp (σ × L) Report) (markDone : Interp σ Report) := by
  refine .bindOk .run fun run => ?_
  cases run.current with
  | none => exact .throw _
  | some current => exact .bindOk (.update _) fun _ => .ok _

/-!
## Flow of control
-/

theorem overdue_framed :
    Framed (overdue : StateM (Session (σ × L)) Bool) (overdue : StateM (Session σ) Bool) := by
  intro kept session
  show ((session.beside kept).checkTime.run.stopped, (session.beside kept).checkTime) = _
  rw [Session.checkTime_beside]
  rfl

variable {framed framedElse : List (Step (σ × L))} {steps stepsElse : List (Step σ)}

theorem untilFailure_framed (all : List.Forall₂ Framed framed steps) :
    Framed (untilFailure framed) (untilFailure steps) := by
  induction all with
  | nil => exact .pure none
  | cons first _ ih =>
      exact .get fun _ _ => .ite (.pure none) (.bind first fun _ => .ite ih (.pure _))

theorem regardless_framed (all : List.Forall₂ Framed framed steps) :
    Framed (regardless framed) (regardless steps) := by
  induction all with
  | nil => exact .pure ()
  | cons first _ ih =>
      exact .bind overdue_framed fun _ =>
        .ite (.pure ()) (.bind (.bind first fun _ => .pure ()) fun _ => ih)

theorem forItems_framed (all : List.Forall₂ Framed framed steps) (skipProcessed : Bool)
    (items : List ListItem) (handled skipped : Nat) :
    Framed (forItems skipProcessed framed handled skipped items)
      (forItems skipProcessed steps handled skipped items) := by
  induction items generalizing handled skipped with
  | nil => exact .ok _
  | cons item rest ih =>
      refine .bindOk (.lift overdue_framed) fun _ => .ite (.ok _) ?_
      refine .bindOk .bindings fun _ => .bindOk (.liftExcept _) fun _ => .bindOk .run fun _ => ?_
      refine .ite (ih _ _) (.bindOk (.update _) fun _ => ?_)
      exact .bindOk (.discard (.lift (untilFailure_framed all))) fun _ => ih _ _

theorem forEachItem_framed (all : List.Forall₂ Framed framed steps) (skipProcessed : Bool) :
    Framed (forEachItem (host.beside repairer) skipProcessed framed)
      (forEachItem host skipProcessed steps) := by
  refine .bindOk (listItems_framed host repairer) fun items => ?_
  cases items with
  | nil => exact .ok _
  | cons item rest =>
      exact .bindOk (forItems_framed all _ _ _ _) fun _ => .bindOk (.update _) fun _ => .ok _

theorem choose_framed (all : List.Forall₂ Framed framed steps)
    (allElse : List.Forall₂ Framed framedElse stepsElse) (condition : Condition) :
    Framed (choose (host.beside repairer) condition framed framedElse)
      (choose host condition steps stepsElse) := by
  refine .bindOk (evaluate_framed host repairer condition) fun taken => ?_
  have branch : Framed (untilFailure (if taken then framed else framedElse))
      (untilFailure (if taken then steps else stepsElse)) := by
    cases taken with
    | true => exact untilFailure_framed all
    | false => exact untilFailure_framed allElse
  refine .bindOk (.lift branch) fun failure => ?_
  cases failure with
  | some failure => exact .ok failure
  | none => exact .ok _

theorem pass_framed (all : List.Forall₂ Framed framed steps) :
    Framed (pass (host.beside repairer) framed) (pass host steps) :=
  .bindOk (countItems_framed host repairer) fun _ => .bindOk .run fun _ =>
    .bindOk (.lift (regardless_framed all)) fun _ =>
      .bindOk (countItems_framed host repairer) fun _ => .update _

theorem passes_framed (all : List.Forall₂ Framed framed steps) (goal : Until)
    (scrollsBefore rounds left : Nat) :
    Framed (passes (host.beside repairer) goal framed scrollsBefore rounds left)
      (passes host goal steps scrollsBefore rounds left) := by
  induction left generalizing rounds with
  | zero => exact .ok _
  | succ left ih =>
      refine .bindOk (.lift overdue_framed) fun _ => .ite (.ok _) ?_
      refine .bindOk (pass_framed host repairer all) fun _ => ?_
      refine .bindOk (reached_framed host repairer _ _) fun _ => .ite (.ok _) ?_
      exact .bindOk (noMoreItems_framed host repairer) fun _ => .ite (.ok _) (ih _)

theorem repeatUntil_framed (all : List.Forall₂ Framed framed steps) (goal : Until) :
    Framed (repeatUntil (host.beside repairer) goal framed) (repeatUntil host goal steps) :=
  .bindOk .run fun _ => passes_framed host repairer all _ _ _ _

/-!
## Actions on the page
-/

theorem acting_framed (action : Action σ Unit) (answer : Report) :
    Framed (acting (action.beside : Action (σ × L) Unit) answer) (acting action answer) :=
  .bindOk (.act _) fun _ => .ok _

theorem focusOn_framed (selector : String) :
    Framed (focusOn (host.beside repairer) selector) (focusOn host selector) :=
  .bindOk (.act _) fun _ => .ite (.bindOk (.update _) fun _ => .ok _) (.throw _)

theorem goTo_framed (name : String) : Framed (goTo (host.beside repairer) name) (goTo host name) :=
  .bindOk .bindings fun _ => .bindOk (.liftExcept _) fun _ => focusOn_framed host repairer _

theorem goToFilter_framed (name : String) :
    Framed (goToFilter (host.beside repairer) name) (goToFilter host name) :=
  .bindOk .bindings fun _ => .bindOk (.liftExcept _) fun _ => focusOn_framed host repairer _

theorem focused_framed (action : String) :
    Framed (focused action : Interp (σ × L) ElementRef) (focused action : Interp σ ElementRef) := by
  refine .bindOk .run fun run => ?_
  cases run.focus with
  | none => exact .throw _
  | some ref => exact .ok _

theorem click_framed : Framed (click (host.beside repairer)) (click host) := by
  refine .bindOk (focused_framed _) fun ref => .bindOk .run fun run => .bindOk .bindings fun b => ?_
  refine .ite (.ok _) (.bindOk (.act _) fun _ => .ite (.ok _) (.throw _))

theorem clickIfExists_framed (name : String) :
    Framed (clickIfExists (host.beside repairer) name) (clickIfExists host name) :=
  .bindOk (lookFor_framed _ name) fun _ =>
    .ite (.bindOk .bindings fun _ => .bindOk (.act _) fun _ => .ok _) (.ok _)

theorem enterText_framed (text : String) :
    Framed (enterText (host.beside repairer) text) (enterText host text) :=
  .bindOk (focused_framed _) fun _ => acting_framed _ _

theorem clear_framed : Framed (clear (host.beside repairer)) (clear host) :=
  .bindOk (.act _) fun _ => .bindOk (.act _) fun _ => .ok _

theorem selectOption_framed (option : String) :
    Framed (selectOption (host.beside repairer) option) (selectOption host option) :=
  .bindOk (focused_framed _) fun _ => .bindOk (.act _) fun _ => .ite (.ok _) (.throw _)

theorem setChecked_framed (checked : Bool) :
    Framed (setChecked (host.beside repairer) checked) (setChecked host checked) :=
  .bindOk (focused_framed _) fun _ => .bindOk (.act _) fun _ =>
    .ite (.bindOk (.discard (.act _)) fun _ => .ok _) (.ok _)

theorem scroll_framed (target : ScrollTarget) (direction : Direction) :
    Framed (scroll (host.beside repairer) target direction) (scroll host target direction) := by
  refine .bindOk (.update _) fun _ => .bindOk .bindings fun b => ?_
  cases direction with
  | down => exact acting_framed _ _
  | up => exact acting_framed _ _

theorem scrollIfNotEnd_framed (target : ScrollTarget) :
    Framed (scrollIfNotEnd (host.beside repairer) target) (scrollIfNotEnd host target) :=
  .bindOk (atPageEnd_framed host repairer) fun _ =>
    .ite (.ok _) (.bindOk (.discard (scroll_framed host repairer target .down)) fun _ => .ok _)

theorem scrollTo_framed (percent : Float) :
    Framed (scrollTo (host.beside repairer) percent) (scrollTo host percent) :=
  .bindOk (.update _) fun _ => acting_framed _ _

theorem noteCount_framed : Framed (noteCount (host.beside repairer)) (noteCount host) :=
  .bindOk (countItems_framed host repairer) fun _ => .bindOk (.update _) fun _ => .ok _

theorem noting_framed (change : Run → Run) :
    Framed (noting change : Interp (σ × L) Report) (noting change : Interp σ Report) :=
  .bindOk (.update _) fun _ => .ok _

/-!
## Commands
-/

theorem attempt_framed {framed : Interp (σ × L) Outcome} {body : Interp σ Outcome}
    (same : Framed framed body) : Framed (attempt framed) (attempt body) := by
  intro kept session
  have counted : (session.beside kept).counted = session.counted.beside kept := rfl
  rw [attempt_apply, attempt_apply, counted, same kept session.counted]
  rcases body session.counted with ⟨fault | outcome, after⟩ <;> rfl

theorem report_framed {framed : Interp (σ × L) Report} {body : Interp σ Report}
    (same : Framed framed body) : Framed (report framed) (report body) :=
  attempt_framed (.bindOk same fun _ => .ok _)

end Interp

variable (host : Host σ) (repairer : Option (Repairer (σ × L)))

mutual

/-- No command asks the repairer, nor does any command inside it. -/
theorem Command.run_framed (command : Command) :
    Framed (command.run (host.beside repairer)) (command.run host) := by
  cases command with
  | openPage url => exact Interp.report_framed (Interp.acting_framed _ _)
  | goBack => exact Interp.report_framed (Interp.acting_framed _ _)
  | refresh => exact Interp.report_framed (Interp.acting_framed _ _)
  | waitFor target => exact Interp.report_framed (Interp.waitFor_framed host repairer target)
  | wait seconds => exact Interp.report_framed (Interp.acting_framed _ _)
  | goTo name => exact Interp.report_framed (Interp.goTo_framed host repairer name)
  | goToFilter name => exact Interp.report_framed (Interp.goToFilter_framed host repairer name)
  | goToItem which => exact Interp.report_framed (Interp.goToItem_framed host repairer which)
  | type text => exact Interp.report_framed (Interp.enterText_framed host repairer text)
  | submit => exact Interp.report_framed (Interp.acting_framed _ _)
  | click => exact Interp.report_framed (Interp.click_framed host repairer)
  | clickIfExists name =>
      exact Interp.report_framed (Interp.clickIfExists_framed host repairer name)
  | select option => exact Interp.report_framed (Interp.selectOption_framed host repairer option)
  | clear => exact Interp.report_framed (Interp.clear_framed host repairer)
  | setChecked checked =>
      exact Interp.report_framed (Interp.setChecked_framed host repairer checked)
  | scroll target direction =>
      exact Interp.report_framed (Interp.scroll_framed host repairer target direction)
  | scrollIfNotEnd target =>
      exact Interp.report_framed (Interp.scrollIfNotEnd_framed host repairer target)
  | scrollTo percent => exact Interp.report_framed (Interp.scrollTo_framed host repairer percent)
  | extractDetails selectors =>
      exact Interp.report_framed (Interp.extractDetails_framed host repairer selectors)
  | save label => exact Interp.report_framed (Interp.save_framed host repairer label)
  | markDone => exact Interp.report_framed Interp.markDone_framed
  | checkpointCount => exact Interp.report_framed (Interp.noteCount_framed host repairer)
  | continueItem => exact Interp.report_framed (Interp.noting_framed _)
  | finish => exact Interp.report_framed (Interp.noting_framed _)
  | forEachItem body skipProcessed =>
      exact Interp.report_framed
        (Interp.forEachItem_framed host repairer (Command.steps_framed body) skipProcessed)
  | choose condition thenBranch elseBranch =>
      exact Interp.attempt_framed (Interp.choose_framed host repairer
        (Command.steps_framed thenBranch) (Command.steps_framed elseBranch) condition)
  | repeatUntil body goal =>
      exact Interp.report_framed
        (Interp.repeatUntil_framed host repairer (Command.steps_framed body) goal)

theorem Command.steps_framed (commands : List Command) :
    List.Forall₂ Framed (Command.steps (host.beside repairer) commands)
      (Command.steps host commands) := by
  cases commands with
  | nil => exact .nil
  | cons command rest => exact .cons (Command.run_framed command) (Command.steps_framed rest)

end

end Gleaner
