import Gleaner.Proofs.Harvest.Beside
import Gleaner.Proofs.Store.Sharing

/-!
# A harvest as a client of its store

A harvest whose store keeps a log shows what it asks of the store: it queries, and at most once,
after its last query, it puts what its run made of the record that the query found. Each repair
that is accepted makes that a version later, and so does taking the place of a stored record.
Such clients do not lose each other's updates.
-/

set_option autoImplicit false

namespace Gleaner

variable {σ α β : Type}

/-- What a harvest asks of its store, and the answer. -/
inductive StoreEvent where
  | queried (url : String) (answer : Except Fault (Option PageBindings))
  | put (record : PageBindings) (expected : Option Int) (answer : Except Fault Unit)

/-- The store that also logs what it is asked, beside the world. -/
def Store.recording (store : Store σ) : Store (σ × List StoreEvent) :=
  { query := fun url (world, log) =>
      ((store.query url world).1, (store.query url world).2,
        log ++ [.queried url (store.query url world).1])
    put := fun record expected (world, log) =>
      ((store.put record expected world).1, (store.put record expected world).2,
        log ++ [.put record expected (store.put record expected world).1]) }

def Harvester.recording (harvester : Harvester σ) : Harvester (σ × List StoreEvent) :=
  harvester.beside harvester.store.recording

/-!
## Logs
-/

namespace Action

/-- The recorded action does what the plain one does, and logs some events beside the world. -/
def Logs (recorded : Action (σ × List StoreEvent) α) (plain : Action σ α) (world : σ)
    (events : List StoreEvent) : Prop :=
  ∀ log, recorded (world, log) = ((plain world).1, (plain world).2, log ++ events)

def Asks (shape : List StoreEvent → Prop) (recorded : Action (σ × List StoreEvent) α)
    (plain : Action σ α) (world : σ) : Prop :=
  ∃ events, shape events ∧ Logs recorded plain world events

variable {recorded : Action (σ × List StoreEvent) α} {plain : Action σ α}
  {recordedNext : α → Action (σ × List StoreEvent) β} {next : α → Action σ β} {world : σ}
  {events : List StoreEvent} {shape : List StoreEvent → Prop}

theorem Framed.logs (framed : Framed recorded plain) : Logs recorded plain world [] := by
  intro log
  rw [framed world log, List.append_nil]

namespace Logs

theorem bind {more : List StoreEvent} {value : α} {after : σ}
    (first : Logs recorded plain world events) (ran : plain world = (.ok value, after))
    (rest : Logs (recordedNext value) (next value) after more) :
    Logs (recorded >>= recordedNext) (plain >>= next) world (events ++ more) := by
  intro log
  rw [bind_apply, bind_apply, first log, ran]
  dsimp only
  rw [rest, List.append_assoc]

theorem bindError {fault : Fault} {after : σ} (first : Logs recorded plain world events)
    (ran : plain world = (.error fault, after)) :
    Logs (recorded >>= recordedNext) (plain >>= next) world events := by
  intro log
  rw [bind_apply, bind_apply, first log, ran]

theorem andThen (first : Logs recorded plain world events)
    (rest : ∀ value, Framed (recordedNext value) (next value)) :
    Logs (recorded >>= recordedNext) (plain >>= next) world events := by
  rcases ran : plain world with ⟨fault | value, after⟩
  · exact first.bindError ran
  · simpa using first.bind ran (rest value).logs

theorem tryCatch {recordedHandle : Fault → Action (σ × List StoreEvent) α}
    {handle : Fault → Action σ α} (first : Logs recorded plain world events)
    (rest : ∀ fault, Framed (recordedHandle fault) (handle fault)) :
    Logs (MonadExcept.tryCatch recorded recordedHandle) (MonadExcept.tryCatch plain handle) world
      events := by
  intro log
  rw [tryCatch_apply, tryCatch_apply, first log]
  rcases plain world with ⟨fault | value, after⟩
  · exact rest fault after (log ++ events)
  · rfl

end Logs

namespace Asks

theorem framed (framed : Framed recorded plain) (empty : shape []) :
    Asks shape recorded plain world :=
  ⟨[], empty, framed.logs⟩

theorem imp {other : List StoreEvent → Prop} (asks : Asks shape recorded plain world)
    (implies : ∀ events, shape events → other events) : Asks other recorded plain world := by
  obtain ⟨events, shaped, logs⟩ := asks
  exact ⟨events, implies events shaped, logs⟩

theorem bind (first : Logs recorded plain world events) (shaped : shape events)
    (rest : ∀ value after, plain world = (.ok value, after) →
      Asks (fun more => shape (events ++ more)) (recordedNext value) (next value) after) :
    Asks shape (recorded >>= recordedNext) (plain >>= next) world := by
  rcases ran : plain world with ⟨fault | value, after⟩
  · exact ⟨events, shaped, first.bindError ran⟩
  · obtain ⟨more, shaped, logs⟩ := rest value after ran
    exact ⟨events ++ more, shaped, first.bind ran logs⟩

theorem silently (first : Framed recorded plain) (empty : shape [])
    (rest : ∀ value after, plain world = (.ok value, after) →
      Asks shape (recordedNext value) (next value) after) :
    Asks shape (recorded >>= recordedNext) (plain >>= next) world :=
  bind first.logs empty rest

theorem andThen (first : Asks shape recorded plain world)
    (rest : ∀ value, Framed (recordedNext value) (next value)) :
    Asks shape (recorded >>= recordedNext) (plain >>= next) world := by
  obtain ⟨events, shaped, logs⟩ := first
  exact ⟨events, shaped, logs.andThen rest⟩

end Asks

end Action

/-!
## What a harvest begins with
-/

namespace Harvester

variable (harvester : Harvester σ)

theorem ran_follows (recipe : Recipe) (b : PageBindings) (world : σ) :
    (harvester.ran recipe b world).2.Follows b :=
  Session.execute_follows harvester.host recipe (Session.start harvester.clock b world)

theorem ran_stats {recipe : Recipe} {b : PageBindings} {world : σ} {result : RunResult}
    (ended : (harvester.ran recipe b world).1 = .ok result) :
    result.stats = (harvester.ran recipe b world).2.run.stats :=
  (Session.execute_result harvester.host recipe _ ended).2

/-- A run keeps the id of its record and makes as many versions as it had repairs accepted. -/
theorem runWith_follows {recipe : Recipe} {b record : PageBindings} {here after : σ}
    {result : RunResult} (ran : harvester.runWith recipe b here = (.ok (result, record), after)) :
    record.id = b.id ∧ record.version = b.version + result.stats.bindingFixes ∧
      (result.stats.bindingFixes = 0 → record = b) := by
  have follows := harvester.ran_follows recipe b here
  have stats := @ran_stats _ harvester recipe b here
  rw [runWith_apply] at ran
  generalize harvester.ran recipe b here = ended at ran follows stats
  rcases ended with ⟨fault | ended, final⟩
  · cases ran
  · cases ran
    rw [stats rfl]
    exact ⟨follows.id, follows.version, follows.unfixed⟩

def Discovers (b : PageBindings) : Prop :=
  ∃ snapshot world found,
    (harvester.advisor.discover snapshot world).1 = .ok (.ok found) ∧ found.bindings = b

/-- Bindings for an attempt, by what the query before it found. -/
inductive Acquires : Option PageBindings → Acquired → Prop where
  | stored (loaded : PageBindings) : Acquires (some loaded) ⟨loaded, some loaded.version⟩
  | rediscovered {b : PageBindings} (loaded : PageBindings) :
      harvester.Discovers b →
      Acquires (some loaded)
        ⟨{ b with id := loaded.id, version := loaded.version + 1 }, some loaded.version⟩
  | discovered {b : PageBindings} : harvester.Discovers b → Acquires none ⟨b, none⟩

theorem rediscover_acquires {url : String} {stored : Option PageBindings} {world after : σ}
    {acquired : Acquired}
    (ran : harvester.rediscover url stored world = (.ok (.ok acquired), after)) :
    harvester.Acquires stored acquired := by
  obtain ⟨snapshot, seen, -, ran⟩ := Action.bind_ok ran
  obtain ⟨answer, later, asked, ran⟩ := Action.bind_ok ran
  cases answer with
  | error reason => cases ran
  | ok found =>
      have discovers : harvester.Discovers found.bindings :=
        ⟨some snapshot, seen, found, by rw [asked], rfl⟩
      cases stored with
      | none =>
          cases ran
          exact .discovered discovers
      | some old =>
          cases ran
          exact .rediscovered old discovers

/-- The URL whose record a harvest looks for. -/
def siteUrl (recipe : Recipe) (world : σ) : String :=
  let start := recipe.startUrl?.getD ""
  if start = "" then harvester.page.url world else start

/-- What is done about the answer to the query. -/
def acquireFrom (url : String) (fresh : Bool) :
    Option PageBindings → Action σ (Except String Acquired)
  | none => harvester.rediscover url none
  | some stored =>
      if fresh then harvester.rediscover url (some stored)
      else do
        match harvester.objection (harvester.clock.time (← get)) stored with
        | some reason =>
            harvester.progress reason
            harvester.rediscover url (some stored)
        | none =>
            harvester.progress s!"Using stored bindings {stored.id} v{stored.version}"
            return .ok ⟨stored, some stored.version⟩

theorem acquire_apply (recipe : Recipe) (fresh : Bool) (world : σ) :
    harvester.acquire recipe fresh world =
      (harvester.store.query (harvester.siteUrl recipe world) >>=
        harvester.acquireFrom (harvester.siteUrl recipe world) fresh) world := by
  show (harvester.store.query (harvester.siteUrl recipe world) >>= _) world = _
  rw [Action.bind_apply, Action.bind_apply]
  rcases harvester.store.query (harvester.siteUrl recipe world) world with
    ⟨fault | _ | stored, after⟩ <;> rfl

theorem acquireFrom_acquires {url : String} {fresh : Bool} {found : Option PageBindings}
    {world after : σ} {acquired : Acquired}
    (ran : harvester.acquireFrom url fresh found world = (.ok (.ok acquired), after)) :
    harvester.Acquires found acquired := by
  cases found with
  | none => exact harvester.rediscover_acquires ran
  | some stored =>
      cases fresh with
      | true => exact harvester.rediscover_acquires ran
      | false =>
          obtain ⟨present, here, -, ran⟩ := Action.bind_ok ran
          cases objected : harvester.objection (harvester.clock.time present) stored with
          | some reason =>
              rw [objected] at ran
              obtain ⟨_, _, -, ran⟩ := Action.bind_ok ran
              exact harvester.rediscover_acquires ran
          | none =>
              rw [objected] at ran
              obtain ⟨_, _, -, ran⟩ := Action.bind_ok ran
              cases ran
              exact .stored stored

theorem acquireFrom_framed {L : Type} (store : Store (σ × L)) (url : String) (fresh : Bool)
    (found : Option PageBindings) :
    Action.Framed ((harvester.beside store).acquireFrom url fresh found)
      (harvester.acquireFrom url fresh found) := by
  cases found with
  | none => exact rediscover_framed harvester store url none
  | some stored =>
      have again := rediscover_framed harvester store url (some stored)
      refine .ite again (.get fun world kept => ?_)
      have same : (harvester.beside store).objection
          ((harvester.beside store).clock.time (world, kept)) stored =
        harvester.objection (harvester.clock.time world) stored := rfl
      rw [same]
      cases harvester.objection (harvester.clock.time world) stored with
      | some reason => exact .bind (.beside _) fun _ => again
      | none => exact .bind (.beside _) fun _ => .pure _

theorem acquire_logs (recipe : Recipe) (fresh : Bool) (world : σ) :
    Action.Logs (harvester.recording.acquire recipe fresh) (harvester.acquire recipe fresh) world
      [.queried (harvester.siteUrl recipe world)
        (harvester.store.query (harvester.siteUrl recipe world) world).1] := by
  intro log
  have queries : Action.Logs
      (harvester.store.recording.query (harvester.siteUrl recipe world))
      (harvester.store.query (harvester.siteUrl recipe world)) world
      [.queried (harvester.siteUrl recipe world)
        (harvester.store.query (harvester.siteUrl recipe world) world).1] := fun _ => rfl
  rw [acquire_apply, acquire_apply]
  exact queries.andThen (acquireFrom_framed harvester _ _ fresh) log

theorem acquire_acquires {recipe : Recipe} {fresh : Bool} {world after : σ} {acquired : Acquired}
    (ran : harvester.acquire recipe fresh world = (.ok (.ok acquired), after)) :
    ∃ found, (harvester.store.query (harvester.siteUrl recipe world) world).1 = .ok found ∧
      harvester.Acquires found acquired := by
  rw [acquire_apply] at ran
  obtain ⟨found, here, queried, ran⟩ := Action.bind_ok ran
  exact ⟨found, by rw [queried], harvester.acquireFrom_acquires ran⟩

theorem saveBindings_logs (b : PageBindings) (expected : Option Int) (world : σ) :
    Action.Logs (harvester.recording.saveBindings b expected) (harvester.saveBindings b expected)
      world [.put b expected (harvester.store.put b expected world).1] := by
  have puts : Action.Logs (harvester.store.recording.put b expected)
      (harvester.store.put b expected) world
      [.put b expected (harvester.store.put b expected world).1] := fun _ => rfl
  refine .andThen (.tryCatch (puts.andThen fun _ => .pure _) fun fault => ?_) fun saved => ?_
  · cases fault <;> first | exact .pure _ | exact .throw _
  · exact .ite (.beside _) (.pure _)

/-!
## A whole harvest
-/

/-- What a harvest puts, by what its last query found: the record that its run made, without an
error, of the bindings it had acquired, later by a version for each repair that was accepted. -/
inductive Puts (recipe : Recipe) : Option PageBindings → PageBindings → Option Int → Prop where
  | reused {loaded record : PageBindings} {here after : σ} {result : RunResult} :
      harvester.runWith recipe loaded here = (.ok (result, record), after) →
      result.error = none → loaded.Precedes record →
      record.version = loaded.version + result.stats.bindingFixes →
      Puts recipe (some loaded) record (some loaded.version)
  | rediscovered {loaded b record : PageBindings} {here after : σ} {result : RunResult} :
      harvester.Discovers b →
      harvester.runWith recipe { b with id := loaded.id, version := loaded.version + 1 } here =
        (.ok (result, record), after) →
      result.error = none → loaded.Precedes record →
      record.version = loaded.version + 1 + result.stats.bindingFixes →
      Puts recipe (some loaded) record (some loaded.version)
  | discovered {b record : PageBindings} {here after : σ} {result : RunResult} :
      harvester.Discovers b →
      harvester.runWith recipe b here = (.ok (result, record), after) →
      result.error = none → record.version = b.version + result.stats.bindingFixes →
      Puts recipe none record none

theorem Acquires.puts {harvester : Harvester σ} {recipe : Recipe} {found : Option PageBindings}
    {acquired : Acquired} (acquires : harvester.Acquires found acquired) {here after : σ}
    {result : RunResult} {record : PageBindings}
    (ran : harvester.runWith recipe acquired.bindings here = (.ok (result, record), after))
    (fine : result.error = none) : harvester.Puts recipe found record acquired.expected := by
  obtain ⟨id, version, unfixed⟩ := harvester.runWith_follows ran
  cases acquires with
  | stored loaded =>
      apply Puts.reused ran fine _ version
      -- Without a repair there is nothing to tell the record from the stored one.
      by_cases none : result.stats.bindingFixes = 0
      · rw [unfixed none]
        exact .same
      · exact .later id (by rw [version]; dsimp only; omega)
  | rediscovered loaded discovers =>
      apply Puts.rediscovered discovers ran fine _ version
      exact .later id (by rw [version]; dsimp only; omega)
  | discovered discovers => exact .discovered discovers ran fine version

/-- A harvest queries, and what it puts in the end it made of what the query just before found. -/
inductive Client (recipe : Recipe) : List StoreEvent → Prop where
  | rested : Client recipe []
  | queried {events : List StoreEvent} (url : String)
      (answer : Except Fault (Option PageBindings)) :
      Client recipe events → Client recipe (.queried url answer :: events)
  | kept {found : Option PageBindings} {record : PageBindings} {expected : Option Int}
      (url : String) (answer : Except Fault Unit) :
      harvester.Puts recipe found record expected →
      Client recipe [.queried url (.ok found), .put record expected answer]

theorem attempts_asks (recipe : Recipe) (more : Nat) (fresh : Bool) (harvest : Harvest)
    (world : σ) :
    Action.Asks (harvester.Client recipe) (harvester.recording.attempts recipe more fresh harvest)
      (harvester.attempts recipe more fresh harvest) world := by
  induction more generalizing fresh harvest world with
  | zero => exact .framed (.pure _) .rested
  | succ more ih =>
      refine .silently (.beside _) .rested fun _ here _ => ?_
      -- From here on the query has been made, and a fault leaves the log at that.
      refine .bind (acquire_logs harvester recipe fresh here) (.queried _ _ .rested) ?_
      intro acquired there ran
      have further (fresh : Bool) (harvest : Harvest) (world : σ) :=
        (ih fresh harvest world).imp fun events => Client.queried (harvester.siteUrl recipe here)
          (harvester.store.query (harvester.siteUrl recipe here) here).1
      cases acquired with
      | error reason =>
          exact .silently (.beside _) (.queried _ _ .rested) fun _ _ _ => further _ _ _
      | ok acquired =>
          obtain ⟨found, answered, acquires⟩ := harvester.acquire_acquires ran
          refine .silently (.beside _) (.queried _ _ .rested) fun _ begun _ => ?_
          refine .silently (runWith_framed harvester _ recipe _) (.queried _ _ .rested) ?_
          intro (result, record) ended ran
          dsimp only
          cases failed : result.error with
          | none =>
              refine .silently (.beside _) (.queried _ _ .rested) fun _ told _ => ?_
              refine .andThen ⟨_, ?_, saveBindings_logs harvester record acquired.expected told⟩
                fun _ => .pure _
              rw [answered]
              exact .kept _ _ (acquires.puts ran failed)
          | some error =>
              refine .silently (.beside _) (.queried _ _ .rested) fun _ told _ => ?_
              split
              · exact .silently (.beside _) (.queried _ _ .rested) fun _ _ _ => further _ _ _
              · exact .framed (.pure _) (.queried _ _ .rested)

def finish (started : Float) (harvest : Harvest) : Action σ Harvest := do
  let harvest ← harvester.structured harvest
  let durationMs := (harvester.clock.time (← get) - started) * 1000
  return { harvest with
    stats := { harvest.stats with run := { harvest.stats.run with durationMs } } }

theorem harvest_apply (recipe : Recipe) (fresh : Bool) (world : σ) :
    harvester.harvest recipe fresh world =
      (harvester.attempts recipe maxAttempts fresh {} >>=
        harvester.finish (harvester.clock.time world)) world := by
  unfold harvest
  rw [Action.get_bind_apply]
  rfl

theorem finish_framed {L : Type} (store : Store (σ × L)) (started : Float) (harvest : Harvest) :
    Action.Framed ((harvester.beside store).finish started harvest)
      (harvester.finish started harvest) :=
  .bind (structured_framed harvester store harvest) fun _ => .get fun _ _ => .pure _

/-- A harvest whose store keeps a log is the harvest, and it logs what a client asks. -/
theorem harvest_asks (recipe : Recipe) (fresh : Bool) (world : σ) :
    Action.Asks (harvester.Client recipe) (harvester.recording.harvest recipe fresh)
      (harvester.harvest recipe fresh) world := by
  obtain ⟨events, client, logs⟩ := (attempts_asks harvester recipe maxAttempts fresh {} world).andThen
    (finish_framed harvester harvester.store.recording (harvester.clock.time world))
  refine ⟨events, client, fun log => ?_⟩
  rw [harvest_apply, harvest_apply]
  exact logs log

theorem Client.put {harvester : Harvester σ} {recipe : Recipe} {events : List StoreEvent}
    (client : harvester.Client recipe events) {before after : List StoreEvent}
    {record : PageBindings} {expected : Option Int} {answer : Except Fault Unit}
    (split : events = before ++ .put record expected answer :: after) :
    after = [] ∧ ∃ earlier url found, before = earlier ++ [.queried url (.ok found)] ∧
      harvester.Puts recipe found record expected := by
  induction client generalizing before with
  | rested => simp at split
  | queried url answer client ih =>
      cases before with
      | nil => cases split
      | cons first before =>
          obtain ⟨last, earlier, url, found, rfl, puts⟩ := ih (List.cons.inj split).2
          exact ⟨last, first :: earlier, url, found, rfl, puts⟩
  | @kept found _ _ url answer puts =>
      cases before with
      | nil => cases split
      | cons first before =>
          cases before with
          | nil =>
              cases split
              exact ⟨rfl, [], url, found, rfl, puts⟩
          | cons second before => simp at split

/-- In a shared store the put of a client is a call that is allowed. -/
theorem Puts.allowed {harvester : Harvester σ} {recipe : Recipe} {found : Option PageBindings}
    {record : PageBindings} {expected : Option Int}
    (puts : harvester.Puts recipe found record expected) {ι τ : Type} [DecidableEq ι]
    {medium : Medium τ} {state : Shared ι τ} {run : ι} (now : Float)
    (has : state.loaded run = found) (distinct : record.Distinct)
    (new : found = none → medium.get now record.id state.kept = .ok none) :
    state.Allows medium ⟨run, now, .put record expected⟩ := by
  cases puts with
  | reused _ _ precedes _ => exact .put now has precedes distinct
  | rediscovered _ _ _ precedes _ => exact .put now has precedes distinct
  | discovered => exact .add run now (new rfl) distinct

end Harvester

/-!
## No lost update
-/

namespace Shared

/-- Runs that share a store, reached from an empty one by any calls, lose no update, in whatever
order their calls come. No record goes back: it stays, or it comes to a later version. A put of
what a run made of the record it loaded is accepted when that is still the stored one, which
means that nobody has changed it before; otherwise it is refused as stale and the store is left
as it was. A harvest is such a run: what it puts it made of what its last query found, later by
a version for each repair, and by one more if the bindings were discovered again. Where the query
found nothing it adds a record, of which as of any other it is asked that the id is new. -/
theorem no_lost_update {ι τ : Type} [DecidableEq ι] {medium : Medium τ} {nothing : τ}
    (empty : medium.Empty nothing) (calls : List (Float × StoreCall))
    (distinct : ∀ timed ∈ calls, timed.2.Distinct) :
    (∀ (past : List (SharedCall ι)) (state : Shared ι τ) (event : SharedCall ι),
      History medium (medium.performAll calls nothing).2 past state → state.Allows medium event →
        (∀ now id stored, medium.get now id state.kept = .ok (some stored) →
          ∃ record,
            (∀ later, medium.get later id (state.after medium event).kept = .ok (some record)) ∧
              (record = stored ∨ stored.version < record.version)) ∧
        ∀ record version, event.call = .put record (some version) →
          ∃ loaded, state.loaded event.run = some loaded ∧ loaded.version = version ∧
            loaded.Precedes record ∧ Settled medium past state event loaded record) ∧
    ∀ (σ : Type) (harvester : Harvester σ) (recipe : Recipe) (fresh : Bool) (world : σ),
      ∃ events : List StoreEvent,
        (∀ log, harvester.recording.harvest recipe fresh (world, log) =
          ((harvester.harvest recipe fresh world).1, (harvester.harvest recipe fresh world).2,
            log ++ events)) ∧
        ∀ before record expected answer after,
          events = before ++ .put record expected answer :: after →
            after = [] ∧ ∃ earlier url found, before = earlier ++ [.queried url (.ok found)] ∧
              harvester.Puts recipe found record expected ∧
              ∀ (state : Shared ι τ) (run : ι) (now : Float), state.loaded run = found →
                record.Distinct →
                (found = none → medium.get now record.id state.kept = .ok none) →
                state.Allows medium ⟨run, now, .put record expected⟩ := by
  constructor
  · intro past state event history allows
    obtain ⟨records, mirrors⟩ := empty.reaches calls distinct
    exact history.settles empty.faithful mirrors allows
  · intro σ harvester recipe fresh world
    obtain ⟨events, client, logs⟩ := harvester.harvest_asks recipe fresh world
    refine ⟨events, logs, fun before record expected answer after split => ?_⟩
    obtain ⟨last, earlier, url, found, same, puts⟩ := client.put split
    refine ⟨last, earlier, url, found, same, puts, fun state run now has distinct new => ?_⟩
    exact puts.allowed now has distinct new

def jobsRecord (version : Int) : PageBindings :=
  { id := "a"
    urlPattern := "jobs"
    version
    updatedAt := 0 }

/-- Two runs load the first version of a record, and one of them keeps a second version. -/
def race : List (SharedCall Bool) :=
  [⟨false, 1, .query "jobs"⟩, ⟨true, 2, .query "jobs"⟩,
    ⟨false, 3, .put (jobsRecord 2) (some 1)⟩]

def afterRace : Shared Bool Records :=
  race.foldl (fun state event => state.after Medium.memory event) { kept := [("a", jobsRecord 1)] }

/-- The other run comes too late. -/
theorem no_lost_update_in_race :
    afterRace.answer Medium.memory ⟨true, 4, .put (jobsRecord 3) (some 1)⟩ =
      .error (.staleBindings "a" 1 2) := by
  have names (version : Int) : (jobsRecord version).Distinct := ⟨List.nodup_nil, List.nodup_nil⟩
  have distinct : ∀ timed ∈ [((0 : Float), StoreCall.put (jobsRecord 1) none)],
      timed.2.Distinct := by
    simpa [StoreCall.Distinct] using names 1
  have later (version : Int) (next : 1 < version) :
      (jobsRecord 1).Precedes (jobsRecord version) := .later rfl next
  have history : History Medium.memory [("a", jobsRecord 1)] race afterRace := by
    refine .call (.call (.call .start ?_) ?_) ?_
    · exact .query false 1 "jobs"
    · exact .query true 2 "jobs"
    · exact .put 3 rfl (later 2 (by decide)) (names 2)
  have allows : afterRace.Allows Medium.memory ⟨true, 4, .put (jobsRecord 3) (some 1)⟩ :=
    .put 4 rfl (later 3 (by decide)) (names 3)
  obtain ⟨loaded, has, expects, -, settled⟩ :=
    ((no_lost_update .memory [(0, .put (jobsRecord 1) none)] distinct).1 race afterRace _
      history allows).2 (jobsRecord 3) 1 rfl
  cases settled with
  | accepted _ unchanged _ _ =>
      have changes : (⟨false, 3, .put (jobsRecord 2) (some 1)⟩ : SharedCall Bool).Changes "a"
          loaded.version := ⟨jobsRecord 2, by rw [expects], rfl, by rw [expects]; decide⟩
      exact absurd changes (unchanged _ (by simp [race]))
  | @refused stored found _ _ answered _ =>
      have second : stored = jobsRecord 2 := (Option.some.inj (Except.ok.inj (found 0))).symm
      rw [answered, second, expects]
      rfl

end Shared

end Gleaner
