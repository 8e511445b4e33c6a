import Gleaner.Proofs.Harvest.Inquiries

/-!
# How often a harvest asks its model

An attempt asks where things are once at most, before it runs, and its run asks for a repair once
at most for each command of the recipe. So the calls of a whole harvest are bounded by the length
of the recipe, and the tries of the model by the calls.
-/

set_option autoImplicit false

namespace Gleaner

variable {σ α β : Type}

/-!
## Runs
-/

/-- The inquiries are for repairs, each of another command and in the order of the commands. -/
def Advisor.Mends (advisor : Advisor σ) (commands : List Command) (inquiries : List Inquiry) :
    Prop :=
  ∃ requests : List RepairRequest, (requests.map (·.command)).Sublist commands ∧
    List.Forall₂ (fun request => advisor.Puts (advisor.question request)) requests inquiries

namespace Advisor.Mends

variable {advisor : Advisor σ} {commands more : List Command} {inquiries others : List Inquiry}

theorem nothing : advisor.Mends commands [] :=
  ⟨[], List.nil_sublist _, .nil⟩

theorem append (mends : advisor.Mends commands inquiries) (further : advisor.Mends more others) :
    advisor.Mends (commands ++ more) (inquiries ++ others) := by
  obtain ⟨requests, sublist, puts⟩ := mends
  obtain ⟨later, laterSublist, laterPuts⟩ := further
  refine ⟨requests ++ later, ?_, List.rel_append puts laterPuts⟩
  rw [List.map_append]
  exact sublist.append laterSublist

theorem length_le (mends : advisor.Mends commands inquiries) :
    inquiries.length ≤ commands.length := by
  obtain ⟨requests, sublist, puts⟩ := mends
  rw [← puts.length_eq, ← List.length_map]
  exact sublist.length_le

theorem puts (mends : advisor.Mends commands inquiries) :
    ∀ inquiry ∈ inquiries, ∃ prompt, advisor.Puts prompt inquiry := by
  obtain ⟨requests, -, puts⟩ := mends
  induction puts with
  | nil => exact List.forall_mem_nil _
  | cons put _ ih => exact List.forall_mem_cons.mpr ⟨⟨_, put⟩, ih⟩

end Advisor.Mends

/-- The host whose repairer is a logged advisor. -/
def Host.logged (advisor : Advisor σ) (host : Host σ) : Host (σ × AdvisorLog) :=
  host.beside (some advisor.logged.repairer)

namespace Session

/-- The logged program does what the plain one does, and the log has its inquiries. -/
def Inquires (shape : List Inquiry → Prop)
    (logged : Session (σ × AdvisorLog) → α × Session (σ × AdvisorLog))
    (prog : Session σ → α × Session σ) : Prop :=
  ∀ session log, ∃ inquiries, shape inquiries ∧
    logged (session.beside log) =
      ((prog session).1, (prog session).2.beside (inquiries.foldl AdvisorLog.enter log))

section Inquires

variable {first second whole shape : List Inquiry → Prop}
  {logged : StateM (Session (σ × AdvisorLog)) α} {prog : StateM (Session σ) α}
  {loggedNext : α → StateM (Session (σ × AdvisorLog)) β} {next : α → StateM (Session σ) β}

theorem inquires_of_framed (framed : Framed logged prog) (none : shape []) :
    Inquires shape logged prog :=
  fun session log => ⟨[], none, framed log session⟩

theorem Inquires.bind (begins : Inquires first logged prog)
    (goesOn : ∀ value, Inquires second (loggedNext value) (next value))
    (both : ∀ early late, first early → second late → whole (early ++ late)) :
    Inquires whole (logged >>= loggedNext) (prog >>= next) := by
  intro session log
  obtain ⟨early, shaped, ran⟩ := begins session log
  obtain ⟨late, shapedLate, ranLate⟩ :=
    goesOn (prog session).1 (prog session).2 (early.foldl AdvisorLog.enter log)
  refine ⟨early ++ late, both early late shaped shapedLate, ?_⟩
  rw [bind_apply, bind_apply, ran, List.foldl_append]
  exact ranLate

theorem Inquires.andThen (begins : Inquires shape logged prog)
    (rest : ∀ value, Framed (loggedNext value) (next value)) :
    Inquires shape (logged >>= loggedNext) (prog >>= next) := by
  have silent (value : α) : Inquires (· = []) (loggedNext value) (next value) :=
    inquires_of_framed (rest value) rfl
  refine begins.bind silent ?_
  rintro early _ shaped rfl
  rwa [List.append_nil]

theorem Inquires.after (begins : Framed logged prog)
    (rest : ∀ value, Inquires shape (loggedNext value) (next value)) :
    Inquires shape (logged >>= loggedNext) (prog >>= next) := by
  have silent : Inquires (· = []) logged prog := inquires_of_framed begins rfl
  refine silent.bind rest ?_
  rintro _ late rfl shaped
  exact shaped

theorem Inquires.get {loggedNext : Session (σ × AdvisorLog) → StateM (Session (σ × AdvisorLog)) β}
    {next : Session σ → StateM (Session σ) β}
    (rest : ∀ session log, Inquires shape (loggedNext (session.beside log)) (next session)) :
    Inquires shape (MonadState.get >>= loggedNext) (MonadState.get >>= next) :=
  fun session log => rest session log session log

theorem observe_inquires {action : Action (σ × AdvisorLog) α} {plain : Action σ α}
    (inquires : Action.Inquires shape action plain) :
    Inquires shape (observe action) (observe plain) := by
  intro session log
  obtain ⟨inquiries, shaped, ran⟩ := inquires session.world log
  refine ⟨inquiries, shaped, ?_⟩
  show ((action (session.world, log)).1,
    { session.beside log with world := (action (session.world, log)).2 }) = _
  rw [ran]
  rfl

end Inquires

variable {host : Host σ} {advisor : Advisor σ} (repairs : host.repairer = some advisor.repairer)

include repairs

theorem proposal_inquires (command : Command) (failure : Outcome) :
    Inquires (advisor.Mends [command]) (proposal (host.logged advisor) command failure)
      (proposal host command failure) := by
  have given : (host.logged advisor).repairer = some advisor.logged.repairer := rfl
  rcases failure with report | ⟨error, _ | _⟩
  · exact inquires_of_framed (.pure _) .nothing
  · exact inquires_of_framed (.pure _) .nothing
  · unfold proposal
    rw [repairs, given]
    cases command.bindingKey? with
    | none => exact inquires_of_framed (.pure _) .nothing
    | some binding =>
        refine .get fun session log => .after (domText_framed host _) fun dom => ?_
        refine .andThen (observe_inquires ((advisor.repairer_inquires _).imp ?_)) fun answer => ?_
        · rintro _ ⟨inquiry, puts, rfl⟩
          exact ⟨[_], List.Sublist.refl _, .cons puts .nil⟩
        · rcases answer with fault | _ | changes <;> exact .pure _

theorem repairAndRetry_inquires (command : Command) (failure : Outcome) :
    Inquires (advisor.Mends [command]) (repairAndRetry (host.logged advisor) command failure)
      (repairAndRetry host command failure) := by
  intro session log
  obtain ⟨inquiries, mends, proposed⟩ := proposal_inquires repairs command failure session log
  refine ⟨inquiries, mends, ?_⟩
  rw [repairAndRetry_apply, repairAndRetry_apply, proposed]
  exact settle_framed host _ command failure _ _ _

theorem runTop_inquires (command : Command) :
    Inquires (advisor.Mends [command]) (runTop (host.logged advisor) command)
      (runTop host command) := by
  refine .after (Command.run_framed host _ command) fun outcome => ?_
  cases outcome with
  | ok report => exact inquires_of_framed (.pure _) .nothing
  | failed error repairable => exact repairAndRetry_inquires repairs command _

theorem runAll_inquires (commands : List Command) :
    Inquires (advisor.Mends commands) (runAll (host.logged advisor) commands)
      (runAll host commands) := by
  induction commands with
  | nil => exact inquires_of_framed (.pure _) .nothing
  | cons command rest ih =>
      refine .after Interp.overdue_framed fun late => ?_
      split
      · exact inquires_of_framed (.pure _) .nothing
      · refine .bind (runTop_inquires repairs command) (fun outcome => ?_)
          fun early late begins goesOn => begins.append goesOn
        cases outcome with
        | ok report => exact ih
        | failed error repairable => exact inquires_of_framed (.pure _) .nothing

/-- A run asks for a repair once at most for each command of the recipe. -/
theorem execute_inquires (recipe : Recipe) :
    Inquires (advisor.Mends recipe.commands) (execute (host.logged advisor) recipe)
      (execute host recipe) := by
  refine .after (begin_framed host _ recipe.limits) fun begun => ?_
  cases begun with
  | error fault => exact inquires_of_framed (.pure _) .nothing
  | ok _ =>
      refine .andThen (runAll_inquires repairs recipe.commands) fun error => ?_
      exact .bind (fun _ _ => rfl) fun result => .pure _

end Session

/-!
## Harvests
-/

def Store.beside (L : Type) (store : Store σ) : Store (σ × L) :=
  { query := fun url => (store.query url).beside
    put := fun record expected => (store.put record expected).beside }

/-- The extractor whose model is logged. -/
def JobExtractor.logged (extractor : JobExtractor σ) : JobExtractor (σ × AdvisorLog) :=
  { model := extractor.model.logged, modelName := extractor.modelName }

/-- The harvester whose advisor, and whose every model, is logged. -/
def Harvester.logged (harvester : Harvester σ) : Harvester (σ × AdvisorLog) :=
  { harvester.beside (harvester.store.beside AdvisorLog) with
    advisor := harvester.advisor.logged
    extractor := harvester.extractor.map JobExtractor.logged }

/-- What is asked in one attempt: perhaps where things are, and for repairs. -/
structure Round where
  discovery : Option Inquiry
  repairs : List Inquiry

def Round.inquiries (round : Round) : List Inquiry :=
  round.discovery.toList ++ round.repairs

/-- An attempt at a recipe may ask this. -/
structure Advisor.Makes (advisor : Advisor σ) (recipe : Recipe) (round : Round) : Prop where
  discovery : ∀ inquiry ∈ round.discovery, advisor.AsksPlaces inquiry
  repairs : advisor.Mends recipe.commands round.repairs

namespace Advisor

variable {advisor : Advisor σ} {recipe : Recipe} {round : Round}

theorem Seeks.makes {seeking repairs : List Inquiry} (seeks : advisor.Seeks seeking)
    (mends : advisor.Mends recipe.commands repairs) :
    ∃ round, advisor.Makes recipe round ∧ seeking ++ repairs = round.inquiries := by
  obtain ⟨question, asks, rfl⟩ := seeks
  exact ⟨⟨question, repairs⟩, ⟨asks, mends⟩, rfl⟩

theorem Makes.length_le (makes : advisor.Makes recipe round) :
    round.inquiries.length ≤ 1 + recipe.commands.length := by
  rw [Round.inquiries, List.length_append]
  exact Nat.add_le_add Option.length_toList_le makes.repairs.length_le

/-- Every question of a round is tried as often as the policy allows, at most. -/
theorem Makes.tries_le (makes : advisor.Makes recipe round) :
    ∀ inquiry ∈ round.inquiries, inquiry.tries.length ≤ advisor.retry.maxAttempts.toNat := by
  intro inquiry among
  have puts : ∃ prompt, advisor.Puts prompt inquiry := by
    rcases List.mem_append.mp among with seeking | repairing
    · obtain ⟨prompt, -, puts⟩ := makes.discovery inquiry (Option.mem_toList.mp seeking)
      exact ⟨prompt, puts⟩
    · exact makes.repairs.puts inquiry repairing
  obtain ⟨prompt, puts⟩ := puts
  rw [Inquiry.tries, List.length_map]
  exact puts.bounded

end Advisor

theorem length_flatMap_le {items : List α} {parts : α → List β} {most : Nat}
    (each : ∀ item ∈ items, (parts item).length ≤ most) :
    (items.flatMap parts).length ≤ most * items.length := by
  induction items with
  | nil => exact Nat.zero_le _
  | cons item rest ih =>
      obtain ⟨here, later⟩ := List.forall_mem_cons.mp each
      rw [List.flatMap_cons, List.length_append, List.length_cons, Nat.mul_succ, Nat.add_comm]
      exact Nat.add_le_add (ih later) here

namespace Harvester

variable (harvester : Harvester σ)

theorem snapshotOf_logged (url : String) :
    Action.Framed (harvester.logged.snapshotOf url) (harvester.snapshotOf url) := by
  have settled (more : Nat) : harvester.logged.settledSnapshot more =
      (harvester.beside (harvester.store.beside AdvisorLog)).settledSnapshot more := by
    induction more with
    | zero => rfl
    | succ more ih =>
        rw [settledSnapshot, settledSnapshot, ih]
        rfl
  have same : harvester.logged.snapshotOf url =
      (harvester.beside (harvester.store.beside AdvisorLog)).snapshotOf url := by
    rw [snapshotOf, snapshotOf, settled]
    rfl
  rw [same]
  exact snapshotOf_framed harvester _ url

theorem rediscover_inquires (url : String) (stored : Option PageBindings) :
    Action.Inquires harvester.advisor.Seeks (harvester.logged.rediscover url stored)
      (harvester.rediscover url stored) := by
  refine .after (harvester.snapshotOf_logged url) (.nothing _) fun snapshot => ?_
  refine .andThen (harvester.advisor.discover_inquires _) fun found => ?_
  cases found with
  | error reason => exact .pure _
  | ok found =>
      cases stored with
      | none => exact .pure _
      | some old => exact .pure _

theorem acquire_inquires (recipe : Recipe) (fresh : Bool) :
    Action.Inquires harvester.advisor.Seeks (harvester.logged.acquire recipe fresh)
      (harvester.acquire recipe fresh) := by
  have silent : harvester.advisor.Seeks [] := .nothing _
  refine .get fun world log => .after (.beside _) silent fun found => ?_
  cases found with
  | none => exact harvester.rediscover_inquires _ none
  | some stored =>
      have again (url : String) := harvester.rediscover_inquires url (some stored)
      refine .ite (again _) (.get fun world log => ?_)
      have same : harvester.logged.objection (harvester.logged.clock.time (world, log)) stored =
        harvester.objection (harvester.clock.time world) stored := rfl
      rw [same]
      cases harvester.objection (harvester.clock.time world) stored with
      | some reason => exact .after (.beside _) silent fun _ => again _
      | none => exact (Action.Framed.bind (.beside _) fun _ => .pure _).inquires silent

theorem runWith_inquires (recipe : Recipe) (b : PageBindings) :
    Action.Inquires (harvester.advisor.Mends recipe.commands)
      (harvester.logged.runWith recipe b) (harvester.runWith recipe b) := by
  intro world log
  have repairs : harvester.host.repairer = some harvester.advisor.repairer := rfl
  obtain ⟨inquiries, mends, ran⟩ := Session.execute_inquires repairs recipe
    (Session.start harvester.clock b world) log
  refine ⟨inquiries, mends, ?_⟩
  have same : harvester.logged.ran recipe b (world, log) = _ := ran
  rw [runWith_apply, runWith_apply, same]
  rfl

theorem saveBindings_logged (b : PageBindings) (expected : Option Int) :
    Action.Framed (harvester.logged.saveBindings b expected)
      (harvester.saveBindings b expected) := by
  refine .bind (.tryCatch (.bind (.beside _) fun _ => .pure _) fun fault => ?_) fun saved => ?_
  · cases fault <;> first | exact .pure _ | exact .throw _
  · exact .ite (.beside _) (.pure _)

theorem conclude_logged (again : Bool) (attempt : Attempt) :
    Action.Framed (harvester.logged.conclude again attempt)
      (harvester.conclude again attempt) := by
  cases attempt with
  | refused error => exact .beside _
  | ran acquired result record =>
      cases failed : result.error with
      | none =>
          simp only [conclude, failed]
          exact .bind (.beside _) fun _ => harvester.saveBindings_logged record _
      | some error =>
          simp only [conclude, failed]
          exact .bind (.beside _) fun _ => .ite (.beside _) (.pure ())

/-- An attempt may ask where things are, and then for repairs. -/
theorem attempt_inquires (recipe : Recipe) (number : Nat) (fresh : Bool) :
    Action.Inquires (fun inquiries => ∃ round, harvester.advisor.Makes recipe round ∧
      inquiries = round.inquiries) (harvester.logged.attempt recipe number fresh)
      (harvester.attempt recipe number fresh) := by
  refine .after (.beside _) (Advisor.Seeks.makes (.nothing _) .nothing) fun _ => ?_
  refine .bind (harvester.acquire_inquires recipe fresh) (fun found => ?_) (fun _ seeks => ?_)
    fun _ _ seeks mends => seeks.makes mends
  · cases found with
    | error reason => exact (Action.Framed.pure _).inquires .nothing
    | ok acquired =>
        refine .after (.beside _) .nothing fun _ => ?_
        exact .andThen (harvester.runWith_inquires recipe acquired.bindings) fun _ => .pure _
  · simpa using seeks.makes .nothing

theorem tries_inquires (recipe : Recipe) (more : Nat) (fresh : Bool) :
    Action.Inquires (fun inquiries => ∃ rounds : List Round, rounds.length ≤ more ∧
      (∀ round ∈ rounds, harvester.advisor.Makes recipe round) ∧
      inquiries = rounds.flatMap Round.inquiries) (harvester.logged.tries recipe more fresh)
      (harvester.tries recipe more fresh) := by
  induction more generalizing fresh with
  | zero => exact (Action.Framed.pure _).inquires ⟨[], Nat.le_refl 0, List.forall_mem_nil _, rfl⟩
  | succ more ih =>
      unfold tries
      refine .bind (harvester.attempt_inquires recipe _ fresh)
        (fun attempt => .after (harvester.conclude_logged _ attempt) ?_ fun _ =>
          .ite (.andThen (ih true) fun _ => .pure _) (Action.Framed.inquires (.pure _) ?_)) ?_ ?_
      · exact ⟨[], Nat.zero_le more, List.forall_mem_nil _, rfl⟩
      · exact ⟨[], Nat.zero_le more, List.forall_mem_nil _, rfl⟩
      · rintro _ ⟨round, makes, rfl⟩
        exact ⟨[round], Nat.le_add_left 1 more, List.forall_mem_singleton.mpr makes, by simp⟩
      · rintro _ _ ⟨round, makes, rfl⟩ ⟨rounds, bounded, all, rfl⟩
        exact ⟨round :: rounds, Nat.succ_le_succ bounded, List.forall_mem_cons.mpr ⟨makes, all⟩,
          rfl⟩

section Alone

variable (without : harvester.extractor = none)

include without

theorem finish_logged (started : Float) (harvest : Harvest) :
    Action.Framed (harvester.logged.finish started harvest)
      (harvester.finish started harvest) := by
  have loggedWithout : harvester.logged.extractor = none := by
    simp [logged, Harvester.beside, without]
  refine .bind ?_ fun _ => .get fun _ _ => .pure _
  unfold structured
  rw [without, loggedWithout]
  exact .pure _

theorem harvest_inquires (recipe : Recipe) (fresh : Bool) :
    Action.Inquires (fun inquiries => ∃ rounds : List Round, rounds.length ≤ maxAttempts ∧
      (∀ round ∈ rounds, harvester.advisor.Makes recipe round) ∧
      inquiries = rounds.flatMap Round.inquiries) (harvester.logged.harvest recipe fresh)
      (harvester.harvest recipe fresh) := by
  intro world log
  have tried := harvester.tries_inquires recipe maxAttempts fresh
  obtain ⟨inquiries, shaped, ran⟩ := Action.Inquires.andThen
    (.andThen tried fun made => .pure (made.foldl Harvest.tally {}))
    (harvester.finish_logged without (harvester.clock.time world)) world log
  refine ⟨inquiries, shaped, ?_⟩
  rw [harvest_apply, harvest_apply, attempts_eq_tries _ _ _ _ rfl, attempts_eq_tries _ _ _ _ rfl]
  exact ran

/-- The calls of a harvest are bounded. A harvest whose advisor is logged is the harvest. In each of
its attempts, two at most, it asks where things are once at most, and for repairs of its commands,
each of which it asks about once at most; no question is put to the model more often than the
policy allows. The tally has one call more for each question, and of these have not failed those
that got a reply, whose tokens are added. -/
theorem harvest_calls_bounded (recipe : Recipe) (fresh : Bool) (world : σ) (log : AdvisorLog) :
    ∃ (rounds : List Round) (inquiries : List Inquiry) (after : AdvisorLog),
      harvester.logged.harvest recipe fresh (world, log) =
        ((harvester.harvest recipe fresh world).1, (harvester.harvest recipe fresh world).2,
          after) ∧
      inquiries = rounds.flatMap Round.inquiries ∧
      rounds.length ≤ 2 ∧ (∀ round ∈ rounds, harvester.advisor.Makes recipe round) ∧
      (rounds.filterMap Round.discovery).length ≤ 2 ∧
      inquiries.length ≤ 2 + 2 * recipe.commands.length ∧
      after.tally.calls = log.tally.calls + inquiries.length ∧
      after.tries = log.tries ++ inquiries.flatMap Inquiry.tries ∧
      (inquiries.flatMap Inquiry.tries).length ≤
        harvester.advisor.retry.maxAttempts.toNat * inquiries.length ∧
      (after.tally.calls : Int) - after.tally.failed =
        log.tally.calls - log.tally.failed + (inquiries.filterMap Inquiry.reply).length ∧
      after.tally.tokens =
        (inquiries.filterMap Inquiry.reply).foldl (fun tokens reply => tokens + reply.usage.total)
          log.tally.tokens := by
  obtain ⟨inquiries, ⟨rounds, few, makes, rfl⟩, ran⟩ :=
    harvester.harvest_inquires without recipe fresh world log
  have calls := AdvisorLog.calls_entered (rounds.flatMap Round.inquiries) log
  have failed := AdvisorLog.failed_entered (rounds.flatMap Round.inquiries) log
  refine ⟨rounds, _, _, ran, rfl, few, makes, ?_, ?_, calls, AdvisorLog.tries_entered _ log, ?_,
    ?_, AdvisorLog.tokens_entered _ log⟩
  · exact (List.length_filterMap_le _ _).trans few
  · have two : rounds.length ≤ 2 := few
    calc (rounds.flatMap Round.inquiries).length
      _ ≤ (1 + recipe.commands.length) * rounds.length :=
          length_flatMap_le fun round among => (makes round among).length_le
      _ ≤ (1 + recipe.commands.length) * 2 := Nat.mul_le_mul_left _ two
      _ = 2 + 2 * recipe.commands.length := by omega
  · refine length_flatMap_le fun inquiry among => ?_
    obtain ⟨round, here, inside⟩ := List.mem_flatMap.mp among
    exact (makes round here).tries_le inquiry inside
  · omega

end Alone

end Harvester

namespace Rehearsal

/-- The list stands in a new place, and the model fails once before it answers. -/
def busyMovedList : World :=
  { movedList with
    advice :=
      { movedList.advice with
        answers := .error (.foreign "RuntimeError" "busy") :: movedList.advice.answers } }

/-- The log of a harvest that finds the old place stored. -/
def movedLog : AdvisorLog :=
  ((harvester.keeping .memory).logged.harvest toList false
    ((busyMovedList, [("a", oldPlace)]), {})).2.2

end Rehearsal

open Rehearsal

/-- A repair, at which the model fails once and then has nothing to propose, and a discovery: two
calls for a recipe with one command, neither of which failed, and three tries. -/
theorem Harvester.harvest_calls_bounded_when_moved :
    (harvester.keeping Medium.memory).extractor = none ∧
      movedLog.tally.calls = 2 ∧ movedLog.tally.failed = 0 ∧ movedLog.tries.length = 3 ∧
      movedLog.tally.calls ≤ 2 + 2 * toList.commands.length ∧
      movedLog.tries.length ≤ 3 * movedLog.tally.calls := by
  have counted : movedLog.tally.calls = 2 ∧ movedLog.tally.failed = 0 ∧
      movedLog.tries.length = 3 := by
    decide +kernel
  obtain ⟨_, inquiries, after, ran, -, -, -, -, few, calls, tries, bounded, -, -⟩ :=
    harvest_calls_bounded (harvester.keeping Medium.memory) rfl toList false
      (busyMovedList, [("a", oldPlace)]) {}
  have last : movedLog = after := by rw [movedLog, ran]
  rw [last] at counted ⊢
  refine ⟨rfl, counted.1, counted.2.1, counted.2.2, ?_, ?_⟩
  · rw [calls]
    exact (Nat.zero_add _).trans_le few
  · rw [tries, calls]
    exact bounded.trans_eq (congrArg _ (Nat.zero_add _).symm)

end Gleaner
