import Gleaner.Harvest
import Gleaner.Proofs.Run.Repairs

/-!
# Harvests with something beside the world

The store is the only part of a harvest that could know of something beside the world. The
page, the clock, the advisor and the extractor do there what they do without it, and so does a
whole run of a recipe, repairs included.
-/

set_option autoImplicit false

namespace Gleaner

variable {σ α β L : Type}

namespace Action

theorem bind_apply (action : Action σ α) (next : α → Action σ β) (world : σ) :
    (action >>= next) world =
      match action world with
      | (.ok value, after) => next value after
      | (.error fault, after) => (.error fault, after) := by
  simp only [bind, ExceptT.bind, ExceptT.mk, ExceptT.bindCont, StateT.bind]
  rcases action world with ⟨fault | value, after⟩ <;> rfl

theorem get_bind_apply (next : σ → Action σ α) (world : σ) :
    (get >>= next : Action σ α) world = next world world :=
  rfl

theorem bind_ok {action : Action σ α} {next : α → Action σ β} {world final : σ} {result : β}
    (ran : (action >>= next) world = (.ok result, final)) :
    ∃ value after, action world = (.ok value, after) ∧ next value after = (.ok result, final) := by
  rw [bind_apply] at ran
  rcases first : action world with ⟨fault | value, after⟩
  · rw [first] at ran
    cases ran
  · rw [first] at ran
    exact ⟨value, after, rfl, ran⟩

theorem tryCatch_apply (action : Action σ α) (handle : Fault → Action σ α) (world : σ) :
    (tryCatch action handle : Action σ α) world =
      match action world with
      | (.ok value, after) => (.ok value, after)
      | (.error fault, after) => handle fault after := by
  simp only [tryCatch, tryCatchThe, MonadExceptOf.tryCatch, ExceptT.tryCatch, ExceptT.mk, bind,
    StateT.bind]
  rcases action world with ⟨fault | value, after⟩ <;> rfl

/-- An action that does beside something what another one does without, and leaves it. -/
def Framed (framed : Action (σ × L) α) (plain : Action σ α) : Prop :=
  ∀ world kept, framed (world, kept) = ((plain world).1, (plain world).2, kept)

namespace Framed

theorem beside (action : Action σ α) : Framed (action.beside : Action (σ × L) α) action :=
  fun _ _ => rfl

theorem pure (value : α) :
    Framed (Pure.pure value : Action (σ × L) α) (Pure.pure value : Action σ α) :=
  fun _ _ => rfl

theorem throw (fault : Fault) :
    Framed (MonadExcept.throw fault : Action (σ × L) α) (MonadExcept.throw fault : Action σ α) :=
  fun _ _ => rfl

theorem liftExcept (result : Except Fault α) :
    Framed (liftM result : Action (σ × L) α) (liftM result : Action σ α) := by
  cases result with
  | ok value => exact .pure value
  | error fault => exact .throw fault

theorem bind {framed : Action (σ × L) α} {plain : Action σ α}
    {framedNext : α → Action (σ × L) β} {next : α → Action σ β} (first : Framed framed plain)
    (rest : ∀ value, Framed (framedNext value) (next value)) :
    Framed (framed >>= framedNext) (plain >>= next) := by
  intro world kept
  rw [bind_apply, bind_apply, first world kept]
  rcases plain world with ⟨fault | value, after⟩
  · rfl
  · exact rest value after kept

theorem get {framedNext : σ × L → Action (σ × L) β} {next : σ → Action σ β}
    (rest : ∀ world kept, Framed (framedNext (world, kept)) (next world)) :
    Framed (MonadState.get >>= framedNext) (MonadState.get >>= next) :=
  fun world kept => rest world kept world kept

theorem modify {framedChange : σ × L → σ × L} {change : σ → σ}
    (same : ∀ world kept, framedChange (world, kept) = (change world, kept)) :
    Framed (MonadState.modifyGet fun world => ((), framedChange world))
      (MonadState.modifyGet fun world => ((), change world)) := by
  intro world kept
  show (Except.ok (), framedChange (world, kept)) = _
  rw [same]
  rfl

theorem ite {condition : Prop} [Decidable condition] {framed framedElse : Action (σ × L) α}
    {plain plainElse : Action σ α} (first : Framed framed plain)
    (second : Framed framedElse plainElse) :
    Framed (if condition then framed else framedElse)
      (if condition then plain else plainElse) := by
  split
  · exact first
  · exact second

theorem tryCatch {framed : Action (σ × L) α} {plain : Action σ α}
    {framedHandle : Fault → Action (σ × L) α} {handle : Fault → Action σ α}
    (first : Framed framed plain)
    (rest : ∀ fault, Framed (framedHandle fault) (handle fault)) :
    Framed (MonadExcept.tryCatch framed framedHandle) (MonadExcept.tryCatch plain handle) := by
  intro world kept
  rw [tryCatch_apply, tryCatch_apply, first world kept]
  rcases plain world with ⟨fault | value, after⟩
  · exact rest fault after kept
  · rfl

end Framed

end Action

/-!
## A run with repairs
-/

def Repairer.beside (L : Type) (repairer : Repairer σ) : Repairer (σ × L) :=
  fun request => (repairer request).beside

/-- The host, with a repairer that leaves what is beside the world. -/
def Host.framed (L : Type) (host : Host σ) : Host (σ × L) :=
  host.beside (host.repairer.map (Repairer.beside L))

namespace Session

variable (host : Host σ)

theorem observe_framed (action : Action σ α) :
    Framed (observe (action.beside : Action (σ × L) α)) (observe action) :=
  fun _ _ => rfl

theorem proposal_framed (command : Command) (failure : Outcome) :
    Framed (proposal (host.framed L) command failure) (proposal host command failure) := by
  -- Only a failure that a binding could mend, with a repairer at hand, gets as far as asking.
  rcases failure with report | ⟨error, _ | _⟩
  · exact .pure _
  · exact .pure _
  · unfold proposal
    cases command.bindingKey? with
    | none => exact .pure _
    | some binding =>
        cases given : host.repairer with
        | none =>
            have framed : (host.framed L).repairer = none := by simp [Host.framed, Host.beside, given]
            rw [framed]
            exact .pure _
        | some repairer =>
            have framed : (host.framed L).repairer = some (repairer.beside L) := by
              simp [Host.framed, Host.beside, given]
            rw [framed]
            refine .get fun kept session => .bind (domText_framed host _) fun dom => ?_
            refine .bind (observe_framed _) fun answer => ?_
            rcases answer with fault | _ | changes <;> exact .pure _

theorem repairAndRetry_framed (command : Command) (failure : Outcome) :
    Framed (repairAndRetry (host.framed L) command failure)
      (repairAndRetry host command failure) := by
  intro kept session
  rw [repairAndRetry_apply, repairAndRetry_apply, proposal_framed host command failure kept session]
  exact settle_framed host _ command failure _ _ kept

theorem runTop_framed (command : Command) :
    Framed (runTop (host.framed L) command) (runTop host command) := by
  refine .bind (Command.run_framed host _ command) fun outcome => ?_
  cases outcome with
  | ok report => exact .pure _
  | failed error repairable => exact repairAndRetry_framed host command _

theorem runAll_framed (commands : List Command) :
    Framed (runAll (host.framed L) commands) (runAll host commands) := by
  induction commands with
  | nil => exact .pure _
  | cons command rest ih =>
      refine .bind Interp.overdue_framed fun late => .ite (.pure _) ?_
      refine .bind (runTop_framed host command) fun outcome => ?_
      cases outcome with
      | ok report => exact ih
      | failed error repairable => exact .pure _

theorem execute_framed (recipe : Recipe) :
    Framed (execute (host.framed L) recipe) (execute host recipe) := by
  refine .bind (begin_framed host _ recipe.limits) fun begun => ?_
  cases begun with
  | error fault => exact .pure _
  | ok _ =>
      refine .bind (runAll_framed host recipe.commands) fun error => ?_
      exact .bind (fun _ _ => rfl) fun result => .pure _

end Session

/-!
## The advisor and the extractor
-/

def Model.beside (L : Type) (model : Model σ) : Model (σ × L) :=
  { name := model.name
    defaultModel := model.defaultModel
    complete := fun completion => (model.complete completion).beside
    healthy := model.healthy.beside }

def Advisor.beside (L : Type) (advisor : Advisor σ) : Advisor (σ × L) :=
  { model := advisor.model.beside L
    clock := advisor.clock.beside L
    settings := advisor.settings
    modelName := advisor.modelName
    retry := advisor.retry
    note := fun change (world, kept) => (advisor.note change world, kept) }

def JobExtractor.beside (L : Type) (extractor : JobExtractor σ) : JobExtractor (σ × L) :=
  { model := extractor.model.beside L, modelName := extractor.modelName }

namespace RetryPolicy

variable {policy : RetryPolicy} {pause : Span → Action σ Unit}
  {onRetry : Nat → Fault → Action σ Unit} {framedRetry : Nat → Fault → Action (σ × L) Unit}
  {task : Action σ α} {framedTask : Action (σ × L) α}

theorem attempts_framed (tells : ∀ attempt fault, Action.Framed (framedRetry attempt fault)
      (onRetry attempt fault))
    (tries : Action.Framed framedTask task) (more attempt : Nat) (delay : Number) :
    Action.Framed
      (policy.attempts (fun span => (pause span).beside) framedRetry framedTask more attempt delay)
      (policy.attempts pause onRetry task more attempt delay) := by
  induction more generalizing attempt delay with
  | zero => exact tries
  | succ more ih =>
      refine .tryCatch tries fun fault => .ite (.throw fault) ?_
      refine .bind (.liftExcept _) fun span => .bind (tells attempt fault) fun _ => ?_
      exact .bind (.beside _) fun _ => .bind (.liftExcept _) fun next => ih _ next

theorem run_framed (tells : ∀ attempt fault, Action.Framed (framedRetry attempt fault)
      (onRetry attempt fault))
    (tries : Action.Framed framedTask task) :
    Action.Framed (policy.run (fun span => (pause span).beside) framedRetry framedTask)
      (policy.run pause onRetry task) := by
  unfold run
  cases policy.initialDelayMs.toFloat? with
  | none => exact .throw _
  | some delay =>
      cases policy.maxAttempts.toNat with
      | zero => exact .throw _
      | succ more => exact attempts_framed tells tries more 1 _

end RetryPolicy

namespace Advisor

variable (advisor : Advisor σ)

theorem ask_framed (prompt : Prompt) :
    Action.Framed ((advisor.beside L).ask prompt) (advisor.ask prompt) := by
  refine .bind (.modify fun _ _ => rfl) fun _ => .bind (.tryCatch ?_ fun fault => ?_) fun reply => ?_
  · exact RetryPolicy.run_framed (fun _ _ => .pure ()) (.beside _)
  · exact .bind (.modify fun _ _ => rfl) fun _ => .throw fault
  · exact .bind (.modify fun _ _ => rfl) fun _ => .pure _

theorem inquire_framed (prompt : Prompt) :
    Action.Framed ((advisor.beside L).inquire prompt) (advisor.inquire prompt) :=
  .tryCatch (.bind (ask_framed advisor prompt) fun _ => .pure _) fun _ => .pure _

theorem discover_framed (snapshot : Option Snapshot) :
    Action.Framed ((advisor.beside L).discover snapshot) (advisor.discover snapshot) := by
  cases snapshot with
  | none => exact .ite (.pure _) (.throw _)
  | some page =>
      refine .ite (.pure _) (.bind (inquire_framed advisor _) fun answer => ?_)
      cases answer with
      | error reason => exact .pure _
      | ok answer => exact .get fun _ _ => .liftExcept _

theorem fix_framed (request : RepairRequest) :
    Action.Framed ((advisor.beside L).fix request) (advisor.fix request) := by
  refine .bind (inquire_framed advisor _) fun answer => ?_
  cases answer with
  | error reason => exact .pure _
  | ok answer => exact .get fun _ _ => .pure _

theorem repairer_framed : (advisor.beside L).repairer = advisor.repairer.beside L := by
  have framed (request : RepairRequest) :
      Action.Framed ((advisor.beside L).repairer request) (advisor.repairer request) := by
    refine .bind (fix_framed advisor request) fun answer => ?_
    cases answer with
    | ok patch => exact .pure _
    | error reason => exact .pure _
  funext request
  exact funext fun (world, kept) => framed request world kept

end Advisor

namespace JobExtractor

variable (extractor : JobExtractor σ)

theorem extract_framed (item : Item) :
    Action.Framed ((extractor.beside L).extract item) (extractor.extract item) := by
  refine .bind (.tryCatch (.bind (.beside _) fun _ => .pure _) fun _ => .pure _) fun answer => ?_
  cases answer with
  | none => exact .pure _
  | some reply => exact .liftExcept _

theorem extractMany_framed (items : List Item) :
    Action.Framed ((extractor.beside L).extractMany items) (extractor.extractMany items) := by
  induction items with
  | nil => exact .pure _
  | cons item rest ih =>
      exact .bind (extract_framed extractor item) fun _ => .bind ih fun _ => .pure _

end JobExtractor

/-!
## The parts of a harvest that leave the store alone
-/

/-- The harvester with a store that may know of something beside the world. -/
def Harvester.beside (harvester : Harvester σ) (store : Store (σ × L)) : Harvester (σ × L) :=
  { page := harvester.page.beside L
    clock := harvester.clock.beside L
    advisor := harvester.advisor.beside L
    store
    extractor := harvester.extractor.map (JobExtractor.beside L)
    settings := harvester.settings
    progress := fun text => (harvester.progress text).beside }

namespace Harvester

variable (harvester : Harvester σ) (store : Store (σ × L))

theorem settledSnapshot_framed (more : Nat) :
    Action.Framed ((harvester.beside store).settledSnapshot more)
      (harvester.settledSnapshot more) := by
  induction more with
  | zero => exact .beside _
  | succ more ih =>
      refine .bind (.beside _) fun snapshot => .ite (.pure _) ?_
      exact .bind (.beside _) fun _ => ih

theorem snapshotOf_framed (url : String) :
    Action.Framed ((harvester.beside store).snapshotOf url) (harvester.snapshotOf url) := by
  have settles := settledSnapshot_framed harvester store 2
  exact .get fun _ _ => .ite (.bind (.beside _) fun _ => settles) settles

theorem rediscover_framed (url : String) (stored : Option PageBindings) :
    Action.Framed ((harvester.beside store).rediscover url stored)
      (harvester.rediscover url stored) := by
  refine .bind (snapshotOf_framed harvester store url) fun snapshot => ?_
  refine .bind (Advisor.discover_framed harvester.advisor _) fun found => ?_
  cases found with
  | error reason => exact .pure _
  | ok found =>
      cases stored with
      | none => exact .pure _
      | some old => exact .pure _

def host : Host σ :=
  { page := harvester.page
    clock := harvester.clock
    settings := harvester.settings.executor
    repairer := some harvester.advisor.repairer }

theorem host_framed : (harvester.beside store).host = harvester.host.framed L := by
  simp [host, Harvester.beside, Host.framed, Host.beside, Advisor.repairer_framed]

/-- The session at the end of a run of a harvest, and how the run ended. -/
def ran (recipe : Recipe) (b : PageBindings) (world : σ) :
    Except Fault RunResult × Session σ :=
  Session.execute harvester.host recipe (Session.start harvester.clock b world)

theorem runWith_apply (recipe : Recipe) (b : PageBindings) (world : σ) :
    harvester.runWith recipe b world =
      ((harvester.ran recipe b world).1.map fun result =>
          (result, (harvester.ran recipe b world).2.bindings),
        (harvester.ran recipe b world).2.world) :=
  rfl

theorem ran_framed (recipe : Recipe) (b : PageBindings) (world : σ) (kept : L) :
    (harvester.beside store).ran recipe b (world, kept) =
      ((harvester.ran recipe b world).1, (harvester.ran recipe b world).2.beside kept) := by
  unfold ran
  rw [host_framed]
  exact Session.execute_framed harvester.host recipe kept
    (Session.start harvester.clock b world)

theorem runWith_framed (recipe : Recipe) (b : PageBindings) :
    Action.Framed ((harvester.beside store).runWith recipe b) (harvester.runWith recipe b) := by
  intro world kept
  rw [runWith_apply, runWith_apply, ran_framed]
  rfl

theorem structured_framed (harvest : Harvest) :
    Action.Framed ((harvester.beside store).structured harvest)
      (harvester.structured harvest) := by
  unfold structured
  cases given : harvester.extractor with
  | none =>
      have none : (harvester.beside store).extractor = none := by simp [Harvester.beside, given]
      rw [none]
      exact .pure _
  | some extractor =>
      have some : (harvester.beside store).extractor = some (extractor.beside L) := by
        simp [Harvester.beside, given]
      rw [some]
      refine .ite (.pure _) (.bind (.beside _) fun _ => ?_)
      exact .bind (JobExtractor.extractMany_framed extractor _) fun _ => .pure _

end Harvester

end Gleaner
