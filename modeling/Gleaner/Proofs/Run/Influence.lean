import Gleaner.Proofs.Bindings.Demands
import Gleaner.Proofs.Bindings.Condition
import Gleaner.Proofs.Run.Mending
import Gleaner.Proofs.Run.Waiting

/-!
# What a repair could change

A repair is asked for by a key that the kind of the failed command has. Whether another value of
that key could make the command do anything else, on any page at all, is another question. It could
unless the command leaves the key aside: details that are taken by selectors of the command, or of
items that show them in place, or with no attempt allowed, and a wait for details that are shown in
place, or that never gets past the end of loading.
-/

set_option autoImplicit false

namespace Gleaner

variable {σ α β : Type}

/-!
## Records that agree but for one key
-/

namespace PageBindings

/-- The other record has the same value under every key but one. -/
def AgreeBut (key : String) (b other : PageBindings) : Prop :=
  ∀ wire ≠ key, other.value? wire = b.value? wire

namespace AgreeBut

variable {key : String} {b other : PageBindings}

/-- A record of which one field is written anew. -/
theorem of_put {value : Json} (written : other.allFields = Entries.put key value b.allFields) :
    AgreeBut key b other := by
  intro wire apart
  rw [value?_eq_filter, value?_eq_filter, written, Entries.find?_put, if_neg apart.symm]

theorem clickBehavior (agree : AgreeBut key b other) (apart : "CLICK_BEHAVIOR" ≠ key) :
    other.clickBehavior = b.clickBehavior := by
  have written (b : PageBindings) :
      b.value? "CLICK_BEHAVIOR" = b.clickBehavior.map fun behavior => .str behavior.name :=
    value?_optional rfl (by cases b.clickBehavior <;> rfl) fun _ => rfl
  have same := agree _ apart
  rw [written, written] at same
  refine Option.map_injective (fun mine yours equal => ?_) same
  cases mine <;> cases yours <;> first | rfl | simp [ClickBehavior.name] at equal

theorem loading (agree : AgreeBut key b other) (apart : "LOADING" ≠ key) :
    other.states.loading = b.states.loading := by
  have written (b : PageBindings) :
      b.value? "LOADING" = b.states.loading.map StateCondition.toJson :=
    value?_optional rfl (by cases b.states.loading <;> rfl) StateCondition.isNull_toJson
  have same := agree _ apart
  rw [written, written] at same
  refine Option.map_injective (fun mine yours equal => ?_) same
  have read := congrArg StateCondition.read? equal
  rw [StateCondition.read?_toJson, StateCondition.read?_toJson] at read
  exact Option.some.inj read

end AgreeBut

end PageBindings

/-!
## What a command comes to
-/

/-- What is seen of a body that has ended: its outcome, and the run and the world after it. -/
def Session.seen (ended : Except Fault Report × Session σ) : Outcome × Run × σ :=
  (.ofResult ended.1, ended.2.run, ended.2.world)

namespace Command

variable (host : Host σ) (session : Session σ)

/-- What a command comes to with some bindings, on a page in a world: its outcome, and the run and
the world after it. -/
def effect (page : Page σ) (world : σ) (b : PageBindings) (command : Command) :
    Outcome × Run × σ :=
  let ended := command.run { host with page } { session with bindings := b, world }
  (ended.1, ended.2.run, ended.2.world)

/-- The key has a value with which, all other bindings unchanged, the command comes to something
else on some page. -/
def Swayed (key : String) (command : Command) : Prop :=
  ∃ other, session.bindings.AgreeBut key other ∧ ∃ page world,
    command.effect host session page world other ≠
      command.effect host session page world session.bindings

/-- The command leaves the value of its key aside. -/
def Overlooks : Command → Prop
  | .extractDetails given =>
      given.getD [] ≠ [] ∨ session.bindings.clickBehavior = some .inPlace ∨
        host.settings.extractRetries = 0
  | .waitFor .details =>
      session.bindings.clickBehavior = some .inPlace ∨ ∀ page world,
        (Interp.waitOutLoading { host with page } session.bindings
          { session with world }.counted).1 ≠ .ok ()
  | _ => False

variable {host session}

theorem effect_report {command : Command} {body : Host σ → Interp σ Report}
    (runs : ∀ host, command.run host = report (body host)) (page : Page σ) (world : σ)
    (b : PageBindings) : command.effect host session page world b =
      Session.seen (body { host with page } { session with bindings := b, world }.counted) := by
  rw [effect, runs, report_apply]
  rfl

/-- Two values with which a command comes to different things: one of them makes a difference. -/
theorem swayed_of_two {command : Command} {key : String} (first second : PageBindings)
    (page : Page σ) (world : σ) (firstAgrees : session.bindings.AgreeBut key first)
    (secondAgrees : session.bindings.AgreeBut key second)
    (differ : command.effect host session page world first ≠
      command.effect host session page world second) :
    command.Swayed host session key := by
  -- The value that is there now can come to what only one of them comes to.
  by_cases same : command.effect host session page world first =
      command.effect host session page world session.bindings
  · exact ⟨second, secondAgrees, page, world, fun also => differ (same.trans also.symm)⟩
  · exact ⟨first, firstAgrees, page, world, same⟩

end Command

/-!
## Programs that do not read the bindings
-/

namespace Interp

/-- The program does the same whatever the bindings of the session are. -/
def Blind (prog : Interp σ α) : Prop :=
  ∀ session bindings, prog { session with bindings } =
    ((prog session).1, { (prog session).2 with bindings })

namespace Blind

theorem pure (value : α) : Blind (Pure.pure value : Interp σ α) :=
  fun _ _ => rfl

theorem act (action : Action σ α) : Blind (Interp.act action) :=
  fun _ _ => rfl

theorem run : Blind (Interp.run : Interp σ Run) :=
  fun _ _ => rfl

theorem liftExcept (result : Except Fault α) : Blind (liftM result : Interp σ α) := by
  intro session bindings
  rw [liftExcept_apply, liftExcept_apply]

theorem bind {first : Interp σ α} {next : α → Interp σ β} (blind : Blind first)
    (nextBlind : ∀ value, Blind (next value)) : Blind (first >>= next) := by
  intro session bindings
  rw [bind_apply, bind_apply, blind session bindings]
  rcases first session with ⟨fault | value, after⟩
  · rfl
  · exact nextBlind value after bindings

/-- A program that asks for the session, for something else than its bindings. -/
theorem get {next : Session σ → Interp σ α}
    (same : ∀ session bindings, next { session with bindings } = next session)
    (blind : ∀ session, Blind (next session)) : Blind (MonadState.get >>= next) := by
  intro session bindings
  rw [bind_apply, bind_apply, get_apply, get_apply]
  exact (congrFun (same session bindings) _).trans (blind session session bindings)

theorem discard {first : Interp σ α} (blind : Blind first) : Blind (discard first) :=
  blind.bind fun _ => .pure _

theorem ite {condition : Prop} [Decidable condition] {first second : Interp σ α}
    (blind : Blind first) (otherBlind : Blind second) :
    Blind (if condition then first else second) := by
  split
  · exact blind
  · exact otherBlind

theorem seen {prog : Interp σ Report} (blind : Blind prog) (session : Session σ)
    (bindings : PageBindings) :
    Session.seen (prog { session with bindings }) = Session.seen (prog session) := by
  rw [blind session bindings]
  rfl

end Blind

variable (host : Host σ)

mutual

theorem holds_blind (condition : StateCondition) : Blind (holds host condition) := by
  cases condition with
  | present selector => exact .act _
  | visible selector => exact .act _
  | gone selector => exact (Blind.act _).bind fun _ => .pure _
  | countChanged selector => exact (Blind.act _).bind fun _ => Blind.run.bind fun _ => .pure _
  | countAtLeast selector least => exact (Blind.act _).bind fun _ => .pure _
  | urlContains text => exact .get (fun _ _ => rfl) fun _ => .pure _
  | urlMatches pattern => exact .get (fun _ _ => rfl) fun _ => .liftExcept _
  | allOf parts => exact allHold_blind parts
  | anyOf parts => exact anyHolds_blind parts

theorem allHold_blind (parts : List StateCondition) : Blind (allHold host parts) := by
  cases parts with
  | nil => exact .pure _
  | cons part rest =>
      exact (holds_blind part).bind fun _ => .ite (allHold_blind rest) (.pure _)

theorem anyHolds_blind (parts : List StateCondition) : Blind (anyHolds host parts) := by
  cases parts with
  | nil => exact .pure _
  | cons part rest =>
      exact (holds_blind part).bind fun _ => .ite (.pure _) (anyHolds_blind rest)

end

theorem pollUntil_blind {check : Interp σ Bool} (blind : Blind check) (deadline : Deadline σ)
    (left : Nat) : Blind (pollUntil host check deadline left) := by
  induction left with
  | zero => exact .pure _
  | succ left ih =>
      refine blind.bind fun _ => .ite (.pure _) (.get (fun _ _ => rfl) fun _ => ?_)
      exact .ite (.pure _) ((Blind.act _).bind fun _ => ih)

theorem waitOutLoading_blind (b : PageBindings) : Blind (waitOutLoading host b) := by
  unfold waitOutLoading
  cases b.states.loading with
  | none => exact .pure _
  | some loading =>
      have gone := (holds_blind host loading).bind fun held => Blind.pure (!held)
      exact Blind.discard (.get (fun _ _ => rfl) fun _ =>
        (Blind.liftExcept _).bind fun _ => pollUntil_blind host gone _ _)

theorem readGroup_blind (group : List String) : Blind (readGroup host group) := by
  induction group with
  | nil => exact .pure _
  | cons selector rest ih => exact (Blind.act _).bind fun _ => ih.bind fun _ => .pure _

theorem readGroups_blind (groups : List (List String)) : Blind (readGroups host groups) := by
  induction groups with
  | nil => exact .pure _
  | cons group rest ih => exact (readGroup_blind host group).bind fun _ => .ite ih (.pure _)

theorem readPatiently_blind (groups : List (List String)) (tries : Nat) :
    Blind (readPatiently host groups tries) := by
  induction tries with
  | zero => exact .pure _
  | succ tries ih =>
      exact (readGroups_blind host groups).bind fun _ =>
        .ite ((Blind.act _).bind fun _ => ih) (.pure _)

/-!
## Keys that are left aside
-/

/-- What an extraction reads, with some bindings. -/
def detailsReading (given : Option (List String)) (b : PageBindings) : Interp σ String :=
  if (b.detailGroups given).isEmpty then pure ""
  else readPatiently host (b.detailGroups given) host.settings.extractRetries

theorem detailsReading_blind (given : Option (List String)) (b : PageBindings) :
    Blind (detailsReading host given b) :=
  .ite (.pure _) (readPatiently_blind host _ _)

theorem detailsReading_congr {given : Option (List String)} {b other : PageBindings}
    (aside : given.getD [] ≠ [] ∨ b.clickBehavior = some .inPlace ∨
      host.settings.extractRetries = 0)
    (same : other.clickBehavior = b.clickBehavior) :
    detailsReading host given other = detailsReading host given b := by
  rcases aside with own | inPlace | never
  · rcases given with _ | _ | ⟨selector, rest⟩
    · exact absurd rfl own
    · exact absurd rfl own
    · rfl
  · have groups : other.detailGroups given = b.detailGroups given := by
      unfold PageBindings.detailGroups
      rw [same, if_pos inPlace, if_pos inPlace]
    rw [detailsReading, groups]
    rfl
  · have nothing (b : PageBindings) : detailsReading host given b = pure "" := by
      rw [detailsReading, never]
      exact ite_self _
    rw [nothing, nothing]

/-- What comes of an extraction that has read a text: the text or that of the current item. -/
def takenOf (text : String) (run : Run) : Outcome × Run :=
  let content := if text = "" then Text.strip ((run.current.map (·.text)).getD "") else text
  if content = "" then (.failed "No content extracted" true, run)
  else (.ok (.extracted content.length), { run with content := some content })

/-- Nothing but what is read of the page depends on the bindings. -/
theorem extractDetails_seen (given : Option (List String)) (session : Session σ) :
    Session.seen (extractDetails host given session) =
      match detailsReading host given session.bindings session with
      | (.error fault, after) => (.ofFault fault, after.run, after.world)
      | (.ok text, after) =>
          ((takenOf text after.run).1, (takenOf text after.run).2, after.world) := by
  rw [extractDetails_apply]
  rcases ran : detailsReading host given session.bindings session with ⟨fault | text, after⟩
  all_goals
    unfold detailsReading at ran
    dsimp only
    rw [ran]
  · rfl
  · unfold takenOf
    dsimp only
    generalize (if text = "" then Text.strip ((after.run.current.map (·.text)).getD "")
      else text) = content
    split <;> rfl

theorem extractDetails_seen_congr {given : Option (List String)} (session : Session σ)
    {other : PageBindings}
    (same : detailsReading host given other = detailsReading host given session.bindings) :
    Session.seen (extractDetails host given { session with bindings := other }) =
      Session.seen (extractDetails host given session) := by
  rw [extractDetails_seen, extractDetails_seen]
  dsimp only
  rw [same, detailsReading_blind host given session.bindings session other]
  rcases detailsReading host given session.bindings session with ⟨fault | text, after⟩ <;> rfl

/-- What a wait for the details looks for in the end. -/
def detailsSign (b : PageBindings) : StateCondition :=
  let panel := match b.detailsPanel with
    | some selector => if selector = "" then "body" else selector
    | none => "body"
  b.states.detailsLoaded.getD (.present panel)

theorem waitForDetails_outside {b : PageBindings} (outside : b.clickBehavior ≠ some .inPlace) :
    waitForDetails host b = (do
      waitOutLoading host b
      waitUntil host (detailsSign b)
      Interp.act (host.clock.pause (.ofMs host.settings.detailsSettleMs))
      return Report.awaited .details) := by
  unfold waitForDetails waitOutLoading
  rw [if_neg outside]
  cases b.states.loading with
  | none => rfl
  | some loading => rfl

theorem waitOutLoading_congr {b other : PageBindings}
    (same : other.states.loading = b.states.loading) :
    waitOutLoading host other = waitOutLoading host b := by
  unfold waitOutLoading
  rw [same]

/-- A wait for the details does not come to what it waits for in the end if they are shown in
place, or if the wait for the end of loading fails. -/
theorem waitForDetails_seen_congr {b other : PageBindings} {session : Session σ}
    (aside : b.clickBehavior = some .inPlace ∨ (waitOutLoading host b session).1 ≠ .ok ())
    (behavior : other.clickBehavior = b.clickBehavior)
    (loading : other.states.loading = b.states.loading) :
    Session.seen (waitForDetails host other { session with bindings := other }) =
      Session.seen (waitForDetails host b session) := by
  by_cases inPlace : b.clickBehavior = some .inPlace
  · rw [waitForDetails, waitForDetails, if_pos inPlace, if_pos (behavior.trans inPlace)]
    exact ((Blind.act _).bind fun _ => .pure _).seen session other
  · have stuck := aside.resolve_left inPlace
    have outside : other.clickBehavior ≠ some .inPlace := by rwa [behavior]
    rw [waitForDetails_outside host inPlace, waitForDetails_outside host outside,
      waitOutLoading_congr host loading, bind_apply, bind_apply,
      waitOutLoading_blind host b session other]
    rcases ran : waitOutLoading host b session with ⟨fault | _, after⟩
    · rfl
    · exact absurd (congrArg Prod.fst ran) stuck

end Interp

namespace Command.Overlooks

variable {host : Host σ} {session : Session σ} {key : String} {other : PageBindings}

/-- A key that is left aside makes no difference, on no page. -/
theorem effect_eq {command : Command} (overlooks : command.Overlooks host session)
    (keyed : command.bindingKey? = some key) (agree : session.bindings.AgreeBut key other)
    (page : Page σ) (world : σ) :
    command.effect host session page world other =
      command.effect host session page world session.bindings := by
  cases command with
  | extractDetails given =>
      cases keyed
      have same : Interp.detailsReading { host with page } given other =
          Interp.detailsReading { host with page } given session.bindings :=
        Interp.detailsReading_congr _ overlooks (agree.clickBehavior (by decide))
      rw [effect_report fun _ => rfl, effect_report fun _ => rfl]
      exact Interp.extractDetails_seen_congr _ { session with world }.counted same
  | waitFor target =>
      cases target with
      | details =>
          cases keyed
          have aside : session.bindings.clickBehavior = some .inPlace ∨
              (Interp.waitOutLoading { host with page } session.bindings
                { session with world }.counted).1 ≠ .ok () :=
            overlooks.imp_right fun stuck => stuck page world
          have same := Interp.waitForDetails_seen_congr { host with page } aside
            (agree.clickBehavior (by decide)) (agree.loading (by decide))
          rw [effect_report fun _ => rfl, effect_report fun _ => rfl]
          exact same
      | page => exact overlooks.elim
      | list => exact overlooks.elim
      | listUpdate => exact overlooks.elim
  | _ => exact overlooks.elim

end Command.Overlooks

/-!
## Keys whose value is read
-/

/-- A page where every selector is there and has itself for its text, and the list has one item,
which is blank. -/
def Page.mirror (page : Page σ) : Page σ :=
  { page with
    isPresent := fun _ => return true
    texts := fun selector => return [selector]
    items := fun _ _ _ => return [{ index := 0 }] }

/-- What a wait looks for is set to a condition. -/
def PageStates.awaiting (target : WaitTarget) (condition : StateCondition) (states : PageStates) :
    PageStates :=
  match target with
  | .page => { states with pageLoaded := some condition }
  | .list => { states with listLoaded := some condition }
  | .listUpdate => { states with listUpdated := some condition }
  | .details => { states with detailsLoaded := some condition }

theorem PageBindings.AgreeBut.awaiting {key : String} {target : WaitTarget}
    (keyed : (Command.waitFor target).bindingKey? = some key) (condition : StateCondition)
    (b : PageBindings) :
    b.AgreeBut key { b with states := b.states.awaiting target condition } := by
  cases target <;> cases keyed <;> exact .of_put rfl

/-- Two patterns that cannot be read, each for a reason of its own. -/
theorem Text.Search.exists_unreadable :
    ∃ first second, Text.Search.read "(" = .error first ∧ Text.Search.read ")" = .error second ∧
      Outcome.ofFault (.badPattern first) ≠ Outcome.ofFault (.badPattern second) :=
  ⟨_, _, rfl, rfl, by decide⟩

namespace Interp

variable (host : Host σ)

theorem waitUntil_apply_of_unreadable {pattern : String} {error : Text.PatternError}
    {deadline : Deadline σ} {session : Session σ}
    (inRange : host.clock.deadline host.settings.waitTimeoutMs session.world = .ok deadline)
    (unreadable : Text.Search.read pattern = .error error) :
    waitUntil host (.urlMatches pattern) session = (.error (.badPattern error), session) := by
  have looked : holds host (.urlMatches pattern) session =
      (.error (.badPattern error), session) := by
    rw [holds, bind_apply, get_apply]
    dsimp only
    rw [liftExcept_apply, urlMatches, unreadable]
  have polled : poll host (holds host (.urlMatches pattern)) host.settings.waitTimeoutMs session =
      (.error (.badPattern error), session) := by
    rw [poll, bind_apply, get_apply]
    dsimp only
    rw [bind_apply, liftExcept_apply, inRange]
    dsimp only
    rw [pollUntil_succ, looked]
  rw [waitUntil_apply, polled]

/-- A wait that comes to its condition fails with the fault of the first look. -/
theorem waitFor_apply_of_unreadable {pattern : String} {error : Text.PatternError}
    {target : WaitTarget} {b : PageBindings} {session : Session σ}
    (inRange : ∀ world, ∃ deadline,
      host.clock.deadline host.settings.waitTimeoutMs world = .ok deadline)
    (unreadable : Text.Search.read pattern = .error error)
    (comes : target = .details →
      b.clickBehavior ≠ some .inPlace ∧ (waitOutLoading host b session).1 = .ok ()) :
    let awaiting := { b with states := b.states.awaiting target (.urlMatches pattern) }
    (waitFor host target { session with bindings := awaiting }).1 = .error (.badPattern error) := by
  intro awaiting
  have waited (session : Session σ) :
      waitUntil host (.urlMatches pattern) session = (.error (.badPattern error), session) := by
    obtain ⟨deadline, inRange⟩ := inRange session.world
    exact waitUntil_apply_of_unreadable host inRange unreadable
  rw [waitFor, bind_apply, bindings_apply]
  dsimp only
  cases target with
  | page =>
      have sign : awaiting.states.pageLoaded.getD (.present "body") = .urlMatches pattern := rfl
      simp only [sign, bind_apply, waited]
  | list =>
      have sign : awaiting.states.listLoaded = some (.urlMatches pattern) := rfl
      simp only [sign, bind_apply, waited]
  | listUpdate =>
      have sign : awaiting.states.listUpdated = some (.urlMatches pattern) := rfl
      simp only [sign, bind_apply, waited]
  | details =>
      obtain ⟨outside, calmed⟩ := comes rfl
      have sign : detailsSign awaiting = .urlMatches pattern := rfl
      have loading : waitOutLoading host awaiting = waitOutLoading host b :=
        waitOutLoading_congr host rfl
      have outside : awaiting.clickBehavior ≠ some .inPlace := outside
      show (waitForDetails host awaiting { session with bindings := awaiting }).1 = _
      rw [waitForDetails_outside host outside, bind_apply, loading,
        waitOutLoading_blind host b session awaiting, calmed]
      dsimp only
      rw [sign, bind_apply, waited]

theorem goToItem_apply_of_unbound (which : ItemChoice) (session : Session σ)
    (unbound : session.bindings.listItem = "") :
    goToItem host which session =
      (.error (.bindingMissing "LIST_ITEM not defined in bindings" "LIST_ITEM" none), session) := by
  have selector : session.bindings.itemSelector =
      .error (.bindingMissing "LIST_ITEM not defined in bindings" "LIST_ITEM" none) := by
    rw [PageBindings.itemSelector, unbound]
    rfl
  rw [goToItem, bind_apply, listItems, bind_apply, bindings_apply]
  dsimp only
  rw [bind_apply, selector, liftExcept_apply]

/-- The blank item of a list gets an id, whatever the rule is. -/
theorem toCurrent_blank (b : PageBindings) :
    ∃ current, b.toCurrent { index := 0 } = .ok current := by
  have candidate (rule : ItemIdRule) : rule.candidate { index := 0 } = .ok none := by
    unfold ItemIdRule.candidate
    cases rule.source <;> rfl
  unfold PageBindings.toCurrent PageBindings.itemIdOf ItemIdRule.itemId
  rw [candidate]
  exact ⟨_, rfl⟩

/-- Of a list with nothing but a blank item that one is chosen, or the choice is at fault. -/
theorem chooseItem_blank (which : ItemChoice) (session : Session σ) :
    (∃ item, chooseItem [{ index := 0 }] { index := 0 } which session = (.ok item, session)) ∨
      ∃ message action, chooseItem [{ index := 0 }] { index := 0 } which session =
        (.error (.command message action), session) := by
  obtain ⟨current, read⟩ := toCurrent_blank session.bindings
  simp only [chooseItem, bind_apply, bindings_apply, run_apply]
  cases which with
  | first =>
      simp only [liftExcept_apply, read]
      exact .inl ⟨_, rfl⟩
  | next =>
      cases found : [({ index := 0 } : ListItem)][(session.run.currentIndex + 1).toNat]? with
      | none => exact .inr ⟨_, _, rfl⟩
      | some item =>
          obtain rfl := List.mem_singleton.mp (List.mem_of_getElem? found)
          simp only [liftExcept_apply, read]
          exact .inl ⟨_, rfl⟩
  | current =>
      cases session.run.current with
      | none => exact .inr ⟨_, _, rfl⟩
      | some current => exact .inl ⟨_, rfl⟩
  | unprocessed =>
      have found : session.bindings.firstUnprocessed session.run [{ index := 0 }] =
          .ok (if session.run.isProcessed current.id then none else some current) := by
        simp only [PageBindings.firstUnprocessed, read]
        show (if session.run.isProcessed current.id then .ok none else .ok (some current) :
          Except Fault (Option CurrentItem)) = _
        split <;> rfl
      simp only [bind_apply, liftExcept_apply, found]
      split
      · exact .inr ⟨_, _, rfl⟩
      · exact .inl ⟨_, rfl⟩

/-- A failure on a list with a blank item is not one that another binding could avoid. -/
theorem goToItem_mirror {which : ItemChoice} {session : Session σ}
    (bound : Text.isBlankText session.bindings.listItem = false) (error : String) :
    Outcome.ofResult (goToItem { host with page := host.page.mirror } which session).1 ≠
      .failed error true := by
  have selector : session.bindings.itemSelector = .ok session.bindings.listItem := by
    rw [PageBindings.itemSelector, bound]
    rfl
  have listed : listItems { host with page := host.page.mirror } session =
      (.ok [{ index := 0 }], session) := by
    rw [listItems, bind_apply, bindings_apply]
    dsimp only
    rw [bind_apply, selector, liftExcept_apply]
    rfl
  rw [goToItem, bind_apply, listed]
  dsimp only
  rw [bind_apply]
  rcases chooseItem_blank which session with ⟨item, chosen⟩ | ⟨message, action, chosen⟩
  · rw [chosen]
    dsimp only
    split <;> rintro ⟨⟩
  · rw [chosen]
    rintro ⟨⟩

/-- The selectors for the details, if there are any, are read first, and on this page that is
enough. -/
theorem extractDetails_mirror {given : Option (List String)} (session : Session σ)
    {selector : String} (unnamed : given.getD [] = [])
    (outside : session.bindings.clickBehavior ≠ some .inPlace)
    (tries : host.settings.extractRetries ≠ 0) (only : session.bindings.detailsContent = [selector])
    (readable : joinTexts [selector] ≠ "") :
    (extractDetails { host with page := host.page.mirror } given session).2.run.content =
      some (joinTexts [selector]) := by
  obtain ⟨rest, groups⟩ := PageBindings.detailGroups_of_content unnamed outside
    (only ▸ List.cons_ne_nil _ _)
  obtain ⟨more, some⟩ := Nat.exists_eq_succ_of_ne_zero tries
  have read : readPatiently { host with page := host.page.mirror }
      (session.bindings.detailGroups given) host.settings.extractRetries session =
        (.ok (joinTexts [selector]), session) := by
    rw [groups, only, some]
    exact readPatiently_apply_of_text _ more rfl readable
  rw [extractDetails_apply_of_read _ (groups ▸ List.cons_ne_nil _ _) read readable]

end Interp

namespace Command

variable {host : Host σ} {session : Session σ} {key : String}

/-- A command that focuses what the bindings have for something. -/
theorem swayed_of_selection {command : Command} (select : PageBindings → Except Fault String)
    (runs : ∀ host : Host σ, command.run host =
      report (do Interp.focusOn host (← liftM (select (← Interp.bindings)))))
    (bound unbound : PageBindings) (boundAgrees : session.bindings.AgreeBut key bound)
    (unboundAgrees : session.bindings.AgreeBut key unbound) {selector : String} {fault : Fault}
    (found : select bound = .ok selector) (missing : select unbound = .error fault) :
    command.Swayed host session key := by
  refine swayed_of_two bound unbound host.page.mirror session.world boundAgrees unboundAgrees
    fun same => ?_
  have outcomes := congrArg Prod.fst same
  obtain ⟨error, repairable, failed⟩ := Outcome.ofFault_failed fault
  rw [effect_report runs, effect_report runs] at outcomes
  have focused (session : Session σ) :
      Interp.focusOn { host with page := host.page.mirror } selector session =
        (.ok (.focused selector),
          { session with run.focus := some (.selector selector) }) :=
    Interp.focusOn_apply_of_present _ rfl
  simp only [Session.seen, Session.counted, Interp.bind_apply, Interp.bindings_apply,
    Interp.liftExcept_apply, found, missing, focused, failed, Outcome.ofResult_ok,
    Outcome.ofResult_error] at outcomes
  cases outcomes

/-- What a name stands for may be bound or not, whatever the other bindings are. -/
theorem focusSelector_bound {name : String} (keyed : (Command.goTo name).bindingKey? = some key)
    (b : PageBindings) : ∃ bound unbound, b.AgreeBut key bound ∧ b.AgreeBut key unbound ∧
      (∃ selector, Interp.focusSelector bound name = .ok selector) ∧
      ∃ fault, Interp.focusSelector unbound name = .error fault := by
  by_cases searchBox : name = "searchBox"
  · subst searchBox
    cases keyed
    exact ⟨{ b with searchBox := some "a" }, { b with searchBox := none }, .of_put rfl,
      .of_put rfl, ⟨_, rfl⟩, _, rfl⟩
  by_cases list : name = "list"
  · subst list
    cases keyed
    exact ⟨{ b with list := "a" }, { b with list := "" }, .of_put rfl, .of_put rfl, ⟨_, rfl⟩, _,
      rfl⟩
  by_cases details : name = "details"
  · subst details
    cases keyed
    exact ⟨{ b with detailsPanel := some "a" }, { b with detailsPanel := none }, .of_put rfl,
      .of_put rfl, ⟨_, rfl⟩, _, rfl⟩
  have elements : key = "ELEMENTS" := by
    simpa [Command.bindingKey?, searchBox, list, details] using keyed.symm
  subst elements
  have found : Interp.focusSelector { b with elements := [(name, "a")] } name = .ok "a" := by
    simp only [Interp.focusSelector, Entries.find?, ↓reduceIte]
    rfl
  have missing : Interp.focusSelector { b with elements := [] } name =
      .error (.bindingMissing ("Element \"" ++ name ++ "\" not defined in ELEMENTS bindings")
        "ELEMENTS" (some "GO_TO")) := by
    simp only [Interp.focusSelector, Entries.find?]
    rfl
  exact ⟨{ b with elements := [(name, "a")] }, { b with elements := [] }, .of_put rfl, .of_put rfl,
    ⟨_, found⟩, _, missing⟩

theorem swayed_goTo {name : String} (keyed : (Command.goTo name).bindingKey? = some key) :
    (Command.goTo name).Swayed host session key := by
  obtain ⟨_, _, bound, unbound, ⟨_, found⟩, _, missing⟩ :=
    focusSelector_bound keyed session.bindings
  exact swayed_of_selection (Interp.focusSelector · name) (fun _ => rfl) _ _ bound unbound found
    missing

theorem swayed_goToFilter {name : String}
    (keyed : (Command.goToFilter name).bindingKey? = some key) :
    (Command.goToFilter name).Swayed host session key := by
  cases keyed
  have found : Interp.filterSelector
      { session.bindings with filters := [(name, { selector := "a" })] } name = .ok "a" := by
    simp only [Interp.filterSelector, Entries.find?, ↓reduceIte]
  have missing : Interp.filterSelector { session.bindings with filters := [] } name =
      .error _ := rfl
  exact swayed_of_selection (Interp.filterSelector · name) (fun _ => rfl)
    { session.bindings with filters := [(name, { selector := "a" })] }
    { session.bindings with filters := [] } (.of_put rfl) (.of_put rfl) found missing

theorem swayed_goToItem {which : ItemChoice}
    (keyed : (Command.goToItem which).bindingKey? = some key) :
    (Command.goToItem which).Swayed host session key := by
  cases keyed
  -- The choice may fail with both values, but only without one is the failure repairable.
  refine swayed_of_two { session.bindings with listItem := "a" }
    { session.bindings with listItem := "" } host.page.mirror session.world (.of_put rfl)
    (.of_put rfl) fun same => ?_
  have outcomes := congrArg Prod.fst same
  rw [effect_report fun _ => rfl, effect_report fun _ => rfl] at outcomes
  have unbound := congrArg (Outcome.ofResult ·.1) (Interp.goToItem_apply_of_unbound
    { host with page := host.page.mirror } which
    { session with bindings.listItem := "" }.counted rfl)
  exact Interp.goToItem_mirror host (show Text.isBlankText "a" = false by decide) _
    (outcomes.trans unbound)

theorem swayed_extractDetails {given : Option (List String)}
    (keyed : (Command.extractDetails given).bindingKey? = some key)
    (reads : ¬ (Command.extractDetails given).Overlooks host session) :
    (Command.extractDetails given).Swayed host session key := by
  cases keyed
  obtain ⟨unnamed, outside, tries⟩ : given.getD [] = [] ∧
      session.bindings.clickBehavior ≠ some .inPlace ∧ host.settings.extractRetries ≠ 0 := by
    simpa [Overlooks] using reads
  refine swayed_of_two { session.bindings with detailsContent := ["a"] }
    { session.bindings with detailsContent := ["b"] } host.page.mirror session.world (.of_put rfl)
    (.of_put rfl) fun same => ?_
  have contents := congrArg (fun seen => seen.2.1.content) same
  rw [effect_report fun _ => rfl, effect_report fun _ => rfl] at contents
  have taken (selector : String) (readable : joinTexts [selector] ≠ "") :=
    Interp.extractDetails_mirror host
      { session with bindings.detailsContent := [selector] }.counted unnamed outside tries rfl
      readable
  have impossible := ((taken "a" (by decide)).symm.trans contents).trans (taken "b" (by decide))
  revert impossible
  decide

theorem swayed_waitFor {target : WaitTarget}
    (inRange : ∀ world, ∃ deadline,
      host.clock.deadline host.settings.waitTimeoutMs world = .ok deadline)
    (keyed : (Command.waitFor target).bindingKey? = some key)
    (reads : ¬ (Command.waitFor target).Overlooks host session) :
    (Command.waitFor target).Swayed host session key := by
  -- Patterns that cannot be read fail at the first look, on every page; a condition that holds
  -- would not do, since the pause after it may fail too.
  obtain ⟨first, second, firstRead, secondRead, differ⟩ := Text.Search.exists_unreadable
  obtain ⟨page, world, comes⟩ : ∃ page world, target = .details →
      session.bindings.clickBehavior ≠ some .inPlace ∧
        (Interp.waitOutLoading { host with page } session.bindings
          { session with world }.counted).1 = .ok () := by
    cases target with
    | details =>
        obtain ⟨outside, calms⟩ := not_or.mp reads
        simp only [not_forall, not_not] at calms
        obtain ⟨page, world, calmed⟩ := calms
        exact ⟨page, world, fun _ => ⟨outside, calmed⟩⟩
    | _ => exact ⟨host.page, session.world, nofun⟩
  refine swayed_of_two _ _ page world (.awaiting keyed (.urlMatches "(") session.bindings)
    (.awaiting keyed (.urlMatches ")") session.bindings) fun same => differ ?_
  have outcomes := congrArg Prod.fst same
  rw [effect_report fun _ => rfl, effect_report fun _ => rfl] at outcomes
  have fails {pattern : String} {error : Text.PatternError}
      (unreadable : Text.Search.read pattern = .error error) :=
    congrArg Outcome.ofResult (Interp.waitFor_apply_of_unreadable { host with page } inRange
      unreadable comes)
  exact ((fails firstRead).symm.trans outcomes).trans (fails secondRead)

/-- The value of its key makes a difference to a command unless the command leaves it aside. -/
theorem swayed_iff {command : Command}
    (inRange : ∀ world, ∃ deadline,
      host.clock.deadline host.settings.waitTimeoutMs world = .ok deadline)
    (keyed : command.bindingKey? = some key) :
    command.Swayed host session key ↔ ¬ command.Overlooks host session := by
  constructor
  · rintro ⟨other, agree, page, world, differ⟩ overlooks
    exact differ (overlooks.effect_eq keyed agree page world)
  · intro reads
    cases command with
    | waitFor target => exact swayed_waitFor inRange keyed reads
    | goTo name => exact swayed_goTo keyed
    | goToFilter name => exact swayed_goToFilter keyed
    | goToItem which => exact swayed_goToItem keyed
    | extractDetails given => exact swayed_extractDetails keyed reads
    | _ => cases keyed

end Command

/-!
## Requests
-/

/-- What a repairer is told when a command goes has the key of the command. -/
theorem Course.keyed {host : Host σ} {command : Command} {before after : Session σ}
    {requests : List RepairRequest} {outcome : Outcome}
    (course : Course host command before requests outcome after) :
    ∀ request ∈ requests, command.bindingKey? = some request.binding := by
  cases course with
  | succeeded => exact List.forall_mem_nil _
  | stands => exact List.forall_mem_nil _
  | unhelped asked _ => exact List.forall_mem_singleton.mpr asked.keyed
  | retried asked _ _ => exact List.forall_mem_singleton.mpr asked.keyed

namespace Session

/-- What the repairer is asked when a command of the recipe goes. -/
def asks (host : Host σ) (command : Command) (session : Session σ) : List RepairRequest :=
  (runTop host.recording command (session.beside [])).2.world.2

theorem asks_keyed {host : Host σ} {command : Command} {session : Session σ} :
    ∀ request ∈ asks host command session, command.bindingKey? = some request.binding := by
  obtain ⟨requests, course, logged⟩ := runTop_course host command session
  have log : asks host command session = requests := by
    rw [asks, logged]
    rfl
  rw [log]
  exact course.keyed

/-- If a repair is asked for when a command of the recipe has failed, then some value of the key
that is asked for could make the command do something else on some page when it is run again, with
one exception: the command leaves the key aside. Then no value of the key could, on no page. -/
theorem asks_swayed (host : Host σ)
    (inRange : ∀ world, ∃ deadline,
      host.clock.deadline host.settings.waitTimeoutMs world = .ok deadline)
    (command : Command) (session : Session σ) :
    let failed := (command.run host session).2
    ∀ request ∈ asks host command session,
      command.Swayed host failed request.binding ↔ ¬ command.Overlooks host failed :=
  fun request among => Command.swayed_iff inRange (asks_keyed request among)

theorem mem_asks_of_binding {host : Host σ} {command : Command} {session : Session σ}
    {key : String} (asked : (asks host command session).map (·.binding) = [key]) :
    ∃ request ∈ asks host command session, request.binding = key :=
  List.mem_map.mp (asked ▸ List.mem_singleton_self key)

open Rehearsal

/-- The list has moved: another value of its key makes a difference. -/
theorem asks_swayed_for_list :
    let host := Rehearsal.host {} (some repairer)
    let session := repairing [("#list", 1)] [("LIST", .str "#list")]
    ∃ request ∈ asks host (.goTo "list") session, request.binding = "LIST" ∧
      (Command.goTo "list").Swayed host ((Command.goTo "list").run host session).2
        request.binding := by
  intro host session
  have asked : (asks host (.goTo "list") session).map (·.binding) = ["LIST"] := by decide +kernel
  obtain ⟨request, among, key⟩ := mem_asks_of_binding asked
  have inRange (world : World) : ∃ deadline, World.deadline 10000 world = .ok deadline := ⟨_, rfl⟩
  have swayed := (asks_swayed host inRange (.goTo "list") session request among).mpr id
  exact ⟨request, among, key, swayed⟩

/-- A session whose details are elsewhere, as its repairer says. -/
def elsewhere : Session World :=
  repairing [] [("DETAILS_CONTENT", .arr [.str "#job"])]

/-- An extraction by selectors of its own that finds nothing: the repairer is asked about the
selectors of the bindings, its patch counts as a fix, and the extraction fails once more. -/
theorem extractDetails_asks_in_vain :
    let host := Rehearsal.host {} (some repairer)
    let command := Command.extractDetails (some [".job"])
    (∃ request ∈ asks host command elsewhere,
      ¬ command.Swayed host (command.run host elsewhere).2 request.binding) ∧
      (runTop host command elsewhere).1 =
        .failed "Command failed after fix: No content extracted" false ∧
      (runTop host command elsewhere).2.run.stats.bindingFixes = 1 := by
  intro host command
  have asked : (asks host command elsewhere).map (·.binding) = ["DETAILS_CONTENT"] := by
    decide +kernel
  obtain ⟨request, among, -⟩ := mem_asks_of_binding asked
  have overlooks : command.Overlooks host (command.run host elsewhere).2 :=
    .inl (List.cons_ne_nil _ _)
  refine ⟨⟨request, among, ?_⟩, by decide +kernel, by decide +kernel⟩
  rintro ⟨other, agree, page, world, differ⟩
  exact differ (overlooks.effect_eq (asks_keyed request among) agree page world)

end Session

end Gleaner
