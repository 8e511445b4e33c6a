import Gleaner.Proofs.Harvest.Attempts
import Gleaner.Proofs.Harvest.Client
import Gleaner.Proofs.Store.Distinct

/-!
# What a harvest reports and what it leaves

A harvest with a store of its own makes one attempt or two, and it reports what these came to.
Nothing is written before the last of them, and after it one record at most: the one that it ran
with, in a version that tells where the record came from and how often it was repaired.
-/

set_option autoImplicit false

namespace Gleaner

variable {σ τ : Type}

/-- The media there are. -/
inductive Medium.Shipped : {τ : Type} → Medium τ → Prop where
  | memory : Shipped .memory
  | file : Shipped .file

/-- The harvester with what a medium keeps beside the world, where nobody else writes it. -/
def Harvester.keeping (medium : Medium τ) (harvester : Harvester σ) : Harvester (σ × τ) :=
  harvester.beside
    (medium.store (harvester.clock.beside τ) Prod.snd fun kept world => (world.1, kept))

/-!
## Reports
-/

namespace Harvest

theorem tally_attempts (tried : List Attempt) (harvest : Harvest) :
    (tried.foldl tally harvest).stats.attempts = harvest.stats.attempts + tried.length := by
  induction tried generalizing harvest with
  | nil => rfl
  | cons attempt rest ih =>
      rw [List.foldl_cons, ih, List.length_cons]
      cases attempt <;> simp only [tally] <;> omega

/-- A counter of a report is the sum of what the attempts have counted. -/
theorem tally_count {count : RunStats → Nat} (none : count {} = 0)
    (add : ∀ total stats, count (total.add stats) = count total + count stats)
    (tried : List Attempt) (harvest : Harvest) :
    count (tried.foldl tally harvest).stats.run =
      count harvest.stats.run + (tried.map fun attempt => count attempt.stats).sum := by
  induction tried generalizing harvest with
  | nil => rfl
  | cons attempt rest ih =>
      rw [List.foldl_cons, ih, List.map_cons, List.sum_cons]
      cases attempt with
      | refused error => simp only [tally, Attempt.stats, none, Nat.zero_add]
      | ran acquired result record => simp only [tally, Attempt.stats, add, Nat.add_assoc]

theorem tally_items (attempt : Attempt) {harvest : Harvest} (none : harvest.items = []) :
    (harvest.tally attempt).items = attempt.items := by
  cases attempt with
  | refused error => exact none
  | ran acquired result record => rfl

theorem tally_items_invited {tried : List Attempt}
    (invited : ∀ attempt ∈ tried, attempt.invites = true) {harvest : Harvest}
    (none : harvest.items = []) : (tried.foldl tally harvest).items = [] := by
  induction tried generalizing harvest with
  | nil => exact none
  | cons attempt rest ih =>
      obtain ⟨first, others⟩ := List.forall_mem_cons.mp invited
      exact ih others ((tally_items attempt none).trans (Attempt.items_of_invites first))

end Harvest

/-!
## One attempt
-/

theorem Action.Framed.leaves {α : Type} {framed : Action (σ × τ) α} {plain : Action σ α}
    (same : Framed framed plain) {here after : σ × τ} {answer : Except Fault α}
    (ran : framed here = (answer, after)) : after.2 = here.2 := by
  rw [same here.1 here.2] at ran
  cases ran
  rfl

namespace Harvester

variable (medium : Medium τ) (harvester : Harvester σ)

theorem acquire_leaves {recipe : Recipe} {fresh : Bool} {here after : σ × τ}
    {answer : Except Fault (Except String Acquired)}
    (ran : (harvester.keeping medium).acquire recipe fresh here = (answer, after)) :
    after.2 = here.2 := by
  rw [acquire_apply, Action.bind_apply] at ran
  have queried := fun url => show ((harvester.keeping medium).store.query url here) =
    (medium.query (harvester.clock.time here.1) url here.2, here) from rfl
  rw [queried] at ran
  cases found : medium.query (harvester.clock.time here.1)
      ((harvester.keeping medium).siteUrl recipe here) here.2 with
  | error fault =>
      rw [found] at ran
      cases ran
      rfl
  | ok stored =>
      rw [found] at ran
      exact (acquireFrom_framed harvester _ _ fresh stored).leaves ran

/-- Where an attempt comes from: its bindings are what was found in the store or what takes its
place, and the recipe ran with them. -/
inductive Makes (recipe : Recipe) (kept : τ) : Attempt → Prop where
  | refused (error : String) : Makes recipe kept (.refused error)
  | ran {start begun ended : σ × τ} {found : Option PageBindings} {acquired : Acquired}
      {result : RunResult} {record : PageBindings} :
      medium.query (harvester.clock.time start.1) ((harvester.keeping medium).siteUrl recipe start)
        kept = .ok found →
      (harvester.keeping medium).Acquires found acquired →
      (harvester.keeping medium).runWith recipe acquired.bindings begun =
        (.ok (result, record), ended) →
      Makes recipe kept (.ran acquired result record)

theorem attempt_spec {recipe : Recipe} {number : Nat} {fresh : Bool} {here after : σ × τ}
    {attempt : Attempt}
    (ran : (harvester.keeping medium).attempt recipe number fresh here = (.ok attempt, after)) :
    harvester.Makes medium recipe here.2 attempt ∧ after.2 = here.2 := by
  obtain ⟨_, told, tells, ran⟩ := Action.bind_ok ran
  have quiet : told.2 = here.2 := (Action.Framed.beside _).leaves tells
  obtain ⟨answer, found, acquired, ran⟩ := Action.bind_ok ran
  have looked : found.2 = told.2 := harvester.acquire_leaves medium acquired
  cases answer with
  | error reason =>
      cases ran
      exact ⟨.refused _, looked.trans quiet⟩
  | ok bindings =>
      obtain ⟨stored, queried, acquires⟩ := (harvester.keeping medium).acquire_acquires acquired
      obtain ⟨_, begun, tells, ran⟩ := Action.bind_ok ran
      have silent : begun.2 = found.2 := (Action.Framed.beside _).leaves tells
      obtain ⟨⟨result, record⟩, ended, executed, ran⟩ := Action.bind_ok ran
      have still : ended.2 = begun.2 := (runWith_framed harvester _ recipe _).leaves executed
      cases ran
      have asked : medium.query (harvester.clock.time told.1)
          ((harvester.keeping medium).siteUrl recipe told) here.2 = .ok stored := by
        rw [← quiet]
        exact queried
      exact ⟨.ran asked acquires executed, still.trans (silent.trans (looked.trans quiet))⟩

/-- What an attempt does to what is kept: nothing unless its run went well, and then the record
that it ran with is put, if no other version is there. -/
inductive Keeps (medium : Medium τ) (kept : τ) : Attempt → τ → Prop where
  | failed {attempt : Attempt} {error : String} : attempt.error = some error →
      Keeps medium kept attempt kept
  | stale {acquired : Acquired} {result : RunResult} {record : PageBindings} {now : Float}
      {id : String} {expected stored : Int} : result.error = none →
      medium.put now record acquired.expected kept = .error (.staleBindings id expected stored) →
      Keeps medium kept (.ran acquired result record) kept
  | saved {acquired : Acquired} {result : RunResult} {record : PageBindings} {now : Float}
      {changed : τ} : result.error = none →
      medium.put now record acquired.expected kept = .ok changed →
      Keeps medium kept (.ran acquired result record) changed

theorem keeping_put_ok {record : PageBindings} {expected : Option Int} {here : σ × τ} {changed : τ}
    (put : medium.put (harvester.clock.time here.1) record expected here.2 = .ok changed) :
    (harvester.keeping medium).store.put record expected here = (.ok (), here.1, changed) := by
  have put : medium.put ((harvester.clock.beside τ).time here) record expected here.2 = .ok changed :=
    put
  simp only [keeping, Harvester.beside, Medium.store, put]

theorem keeping_put_error {record : PageBindings} {expected : Option Int} {here : σ × τ}
    {fault : Fault}
    (put : medium.put (harvester.clock.time here.1) record expected here.2 = .error fault) :
    (harvester.keeping medium).store.put record expected here = (.error fault, here) := by
  have put : medium.put ((harvester.clock.beside τ).time here) record expected here.2 = .error fault :=
    put
  simp only [keeping, Harvester.beside, Medium.store, put]

theorem saveBindings_spec {record : PageBindings} {expected : Option Int} {here after : σ × τ}
    (ran : (harvester.keeping medium).saveBindings record expected here = (.ok (), after)) :
    ∃ now, medium.put now record expected here.2 = .ok after.2 ∨
      ∃ id version stored, medium.put now record expected here.2 =
        .error (.staleBindings id version stored) ∧ after.2 = here.2 := by
  refine ⟨harvester.clock.time here.1, ?_⟩
  obtain ⟨saved, put, tried, ran⟩ := Action.bind_ok ran
  have told : after.2 = put.2 := by
    have framed : Action.Framed (L := τ)
        (if saved then ((harvester.progress s!"Saved bindings {record.id} v{record.version}").beside)
          else pure ()) (if saved then _ else pure ()) :=
      .ite (.beside _) (.pure ())
    exact framed.leaves ran
  rw [Action.tryCatch_apply, Action.bind_apply] at tried
  cases answered : medium.put (harvester.clock.time here.1) record expected here.2 with
  | ok changed =>
      rw [keeping_put_ok medium harvester answered] at tried
      cases tried
      exact .inl (congrArg Except.ok told.symm)
  | error fault =>
      rw [keeping_put_error medium harvester answered] at tried
      cases fault with
      | staleBindings id version stored =>
          cases tried
          exact .inr ⟨id, version, stored, rfl, told⟩
      | _ => cases tried

theorem conclude_framed {L : Type} (store : Store (σ × L)) (again : Bool) {attempt : Attempt}
    {error : String} (failed : attempt.error = some error) :
    Action.Framed ((harvester.beside store).conclude again attempt)
      (harvester.conclude again attempt) := by
  cases attempt with
  | refused error => exact .beside _
  | ran acquired result record =>
      have failed : result.error = some error := failed
      simp only [conclude, failed]
      exact .bind (.beside _) fun _ => .ite (.beside _) (.pure ())

theorem conclude_spec {again : Bool} {attempt : Attempt} {here after : σ × τ}
    (ran : (harvester.keeping medium).conclude again attempt here = (.ok (), after)) :
    Keeps medium here.2 attempt after.2 := by
  cases failed : attempt.error with
  | some error =>
      rw [(harvester.conclude_framed _ again failed).leaves ran]
      exact .failed failed
  | none =>
      cases attempt with
      | refused error => cases failed
      | ran acquired result record =>
          have fine : result.error = none := failed
          simp only [conclude, fine] at ran
          obtain ⟨_, told, tells, ran⟩ := Action.bind_ok ran
          have quiet : told.2 = here.2 := (Action.Framed.beside _).leaves tells
          obtain ⟨now, saved | ⟨id, version, stored, stale, left⟩⟩ :=
            harvester.saveBindings_spec medium ran
          · rw [quiet] at saved
            exact .saved fine saved
          · rw [quiet] at stale left
            rw [left]
            exact .stale fine stale

theorem Keeps.of_invites {medium : Medium τ} {kept left : τ} {attempt : Attempt}
    (keeps : Keeps medium kept attempt left) (invited : attempt.invites = true) : left = kept := by
  cases keeps with
  | failed => rfl
  | stale => rfl
  | saved fine =>
      simp [Attempt.invites, fine] at invited

/-- The attempts of a harvest: each but the last invites another one and leaves what is kept. -/
theorem tries_spec {recipe : Recipe} {more : Nat} {fresh : Bool} {here after : σ × τ}
    {tried : List Attempt}
    (ran : (harvester.keeping medium).tries recipe (more + 1) fresh here = (.ok tried, after)) :
    ∃ earlier last, tried = earlier ++ [last] ∧ earlier.length ≤ more ∧
      (∀ attempt ∈ earlier, attempt.invites = true) ∧
      (∀ attempt ∈ tried, harvester.Makes medium recipe here.2 attempt) ∧
      Keeps medium here.2 last after.2 := by
  induction more generalizing fresh here tried with
  | zero =>
      obtain ⟨attempt, made, told, attempted, concluded, ⟨rfl, rfl⟩ | ⟨more, _⟩⟩ :=
        (harvester.keeping medium).tries_ok ran
      · obtain ⟨makes, quiet⟩ := harvester.attempt_spec medium attempted
        have keeps := harvester.conclude_spec medium concluded
        rw [quiet] at keeps
        exact ⟨[], attempt, rfl, le_refl _, List.forall_mem_nil _,
          List.forall_mem_singleton.mpr makes, keeps⟩
      · exact absurd rfl more
  | succ more ih =>
      obtain ⟨attempt, made, told, attempted, concluded, further⟩ :=
        (harvester.keeping medium).tries_ok ran
      obtain ⟨makes, quiet⟩ := harvester.attempt_spec medium attempted
      have keeps := harvester.conclude_spec medium concluded
      rw [quiet] at keeps
      rcases further with ⟨rfl, rfl⟩ | ⟨-, invited, rest, rfl, further⟩
      · exact ⟨[], attempt, rfl, Nat.zero_le _, List.forall_mem_nil _,
          List.forall_mem_singleton.mpr makes, keeps⟩
      · obtain ⟨earlier, last, rfl, most, invites, others, kept⟩ := ih further
        rw [keeps.of_invites invited] at others kept
        exact ⟨attempt :: earlier, last, rfl, Nat.succ_le_succ most,
          List.forall_mem_cons.mpr ⟨invited, invites⟩,
          List.forall_mem_cons.mpr ⟨makes, others⟩, kept⟩

end Harvester

/-!
## What is written
-/

namespace Medium

theorem put_eq_ok {medium : Medium τ} {now : Float} {record : PageBindings}
    {expected : Option Int} {kept changed : τ}
    (accepted : medium.put now record expected kept = .ok changed) :
    ∃ records, medium.load now kept = .ok records ∧
      changed = medium.save (Entries.put record.id record records) := by
  obtain ⟨records, loaded, accepted⟩ := Json.bind_ok accepted
  refine ⟨records, loaded, ?_⟩
  split at accepted
  next =>
    split at accepted
    · cases accepted
    · cases accepted
      rfl
  next =>
    cases accepted
    rfl

theorem query_eq_some {medium : Medium τ} {now : Float} {url : String} {kept : τ}
    {record : PageBindings} (answered : medium.query now url kept = .ok (some record)) :
    ∃ records, medium.load now kept = .ok records ∧ ∃ entry ∈ records, entry.2 = record := by
  obtain ⟨listed, all, answered⟩ := Json.bind_ok answered
  obtain ⟨records, loaded, all⟩ := Json.bind_ok all
  cases all
  obtain ⟨found, matched, answered⟩ := Json.bind_ok answered
  refine ⟨records, loaded, List.mem_map.mp ?_⟩
  exact mem_of_matching matched record (latest_mem (Except.ok.inj answered))

/-- A record that is put is there at any later time, and so are the others. -/
theorem Shipped.load_put {medium : Medium τ} (shipped : medium.Shipped) {now : Float} {kept : τ}
    {records : Records} (loaded : medium.load now kept = .ok records) {record : PageBindings}
    (distinct : (∀ past earlier, medium.load past kept = .ok earlier →
      ∀ entry ∈ earlier, entry.2.Distinct) → record.Distinct) (later : Float) :
    medium.load later (medium.save (Entries.put record.id record records)) =
      .ok (Entries.put record.id record records) := by
  cases shipped with
  | memory => rfl
  | file =>
      obtain ⟨once, each⟩ := file_once loaded
      have new : record.Distinct :=
        distinct fun past earlier loaded => (file_once loaded).2
      refine readText_toText later (Entries.nodup_put _ _ once) fun entry found => ?_
      rcases Entries.mem_put found with rfl | there
      · exact new
      · exact each entry there

end Medium

namespace Harvester

variable {medium : Medium τ} {harvester : Harvester σ}

theorem Makes.distinct {recipe : Recipe} {kept : τ} {acquired : Acquired} {result : RunResult}
    {record : PageBindings} (makes : harvester.Makes medium recipe kept (.ran acquired result record))
    (loads : ∀ past earlier, medium.load past kept = .ok earlier →
      ∀ entry ∈ earlier, entry.2.Distinct) : record.Distinct := by
  cases makes with
  | @ran start begun ended found _ _ _ queried acquires executed =>
      have given : acquired.bindings.Distinct := by
        cases acquires with
        | stored loaded =>
            obtain ⟨records, loaded, entry, there, rfl⟩ := Medium.query_eq_some queried
            exact loads _ records loaded entry there
        | rediscovered loaded discovers =>
            obtain ⟨snapshot, world, found, asked, rfl⟩ := discovers
            have distinct := (Advisor.discover_spec (Prod.ext asked rfl)).2
            exact ⟨distinct.filters, distinct.elements⟩
        | discovered discovers =>
            obtain ⟨snapshot, world, found, asked, rfl⟩ := discovers
            exact (Advisor.discover_spec (Prod.ext asked rfl)).2
      have final :
          ((harvester.keeping medium).ran recipe acquired.bindings begun).2.bindings.Distinct :=
        Session.execute_distinct recipe given
      rw [runWith_apply] at executed
      generalize (harvester.keeping medium).ran recipe acquired.bindings begun = ran at executed final
      rcases ran with ⟨fault | ended, session⟩
      · cases executed
      · cases executed
        exact final

/-- How the record that was acquired stands to what was found in the store, and the record that a
run made of it, which accepted so many repairs. -/
inductive Renews (harvester : Harvester σ) (fixes : Nat) :
    Option PageBindings → Acquired → PageBindings → Prop where
  | reused {loaded record : PageBindings} : record.id = loaded.id →
      record.version = loaded.version + fixes →
      Renews harvester fixes (some loaded) ⟨loaded, some loaded.version⟩ record
  | replaced {loaded b record : PageBindings} : harvester.Discovers b → record.id = loaded.id →
      record.version = loaded.version + 1 + fixes →
      Renews harvester fixes (some loaded)
        ⟨{ b with id := loaded.id, version := loaded.version + 1 }, some loaded.version⟩ record
  | added {b record : PageBindings} : harvester.Discovers b → record.version = 1 + fixes →
      Renews harvester fixes none ⟨b, none⟩ record

theorem Acquires.renews {harvester : Harvester σ} {found : Option PageBindings}
    {acquired : Acquired} (acquires : harvester.Acquires found acquired) {recipe : Recipe}
    {begun ended : σ} {result : RunResult} {record : PageBindings}
    (ran : harvester.runWith recipe acquired.bindings begun = (.ok (result, record), ended)) :
    harvester.Renews result.stats.bindingFixes found acquired record := by
  obtain ⟨id, version, -⟩ := harvester.runWith_follows ran
  cases acquires with
  | stored loaded => exact .reused id version
  | rediscovered loaded discovers => exact .replaced discovers id version
  | discovered discovers =>
      refine .added discovers ?_
      obtain ⟨snapshot, world, found, asked, rfl⟩ := discovers
      rw [version, (Advisor.discover_spec (Prod.ext asked rfl)).1]

/-- What a harvest leaves in its store by its last attempt, and the record that it reports. -/
inductive Leaves (medium : Medium τ) (harvester : Harvester σ) (recipe : Recipe) (kept : τ)
    (bindings : Option PageBindings) : Attempt → τ → Prop where
  | failed {last : Attempt} {error : String} : last.error = some error →
      Leaves medium harvester recipe kept bindings last kept
  | stale {acquired : Acquired} {result : RunResult} {record : PageBindings} {now : Float}
      {id : String} {expected stored : Int} : result.error = none →
      medium.put now record acquired.expected kept = .error (.staleBindings id expected stored) →
      Leaves medium harvester recipe kept bindings (.ran acquired result record) kept
  | saved {acquired : Acquired} {result : RunResult} {record : PageBindings}
      {found : Option PageBindings} {start : σ × τ} {now : Float} {records : Records} {left : τ} :
      result.error = none → bindings = some record →
      medium.query (harvester.clock.time start.1) ((harvester.keeping medium).siteUrl recipe start)
        kept = .ok found →
      (harvester.keeping medium).Renews result.stats.bindingFixes found acquired record →
      medium.load now kept = .ok records →
      (∀ later, medium.load later left = .ok (Entries.put record.id record records)) →
      (∀ later, medium.get later record.id left = .ok (some record)) →
      (∀ later id, id ≠ record.id → medium.get later id left = medium.get now id kept) →
      Leaves medium harvester recipe kept bindings (.ran acquired result record) left

theorem Keeps.leaves {recipe : Recipe} {kept left : τ} {last : Attempt}
    {bindings : Option PageBindings} (keeps : Keeps medium kept last left)
    (shipped : medium.Shipped) (makes : harvester.Makes medium recipe kept last)
    (reported : ∀ acquired result record, last = .ran acquired result record →
      bindings = some record) : Leaves medium harvester recipe kept bindings last left := by
  cases keeps with
  | failed error => exact .failed error
  | stale fine refused => exact .stale fine refused
  | @saved acquired result record now _ fine accepted =>
      obtain ⟨records, loaded, rfl⟩ := Medium.put_eq_ok accepted
      have loads := shipped.load_put loaded makes.distinct
      have gets (later : Float) (id : String) :
          medium.get later id (medium.save (Entries.put record.id record records)) =
            .ok (if record.id = id then some record else Entries.find? id records) := by
        rw [Medium.get, loads, ← Entries.find?_put]
        rfl
      have got (id : String) : medium.get now id kept = .ok (Entries.find? id records) := by
        rw [Medium.get, loaded]
        rfl
      cases makes with
      | ran queried acquires executed =>
          refine .saved fine (reported _ _ _ rfl) queried (acquires.renews executed) loaded loads
            (fun later => ?_) fun later id other => ?_
          · rw [gets, if_pos rfl]
          · rw [gets, got, if_neg (Ne.symm other)]

/-!
## A whole harvest
-/

/-- What a harvest reports and what it leaves in its store, by the attempts that it made. -/
structure Effect (medium : Medium τ) (harvester : Harvester σ) (recipe : Recipe) (kept : τ)
    (tried : List Attempt) (harvest : Harvest) (left : τ) : Prop where
  attempts : harvest.stats.attempts = tried.length
  some : 1 ≤ tried.length
  most : tried.length ≤ 2
  /-- There were no bindings for the first of two attempts, or it failed with nothing to show and
  for want of better ones. -/
  again : ∀ first second, tried = [first, second] →
    (∃ error, first = .refused error) ∨
      ∃ acquired result record error, first = .ran acquired result record ∧ result.items = [] ∧
        result.error = Option.some error ∧ isBindingError error = true
  items : harvest.items = tried.flatMap Attempt.items
  commandsExecuted : harvest.stats.run.commandsExecuted =
    (tried.map fun attempt => attempt.stats.commandsExecuted).sum
  itemsProcessed : harvest.stats.run.itemsProcessed =
    (tried.map fun attempt => attempt.stats.itemsProcessed).sum
  scrollsPerformed : harvest.stats.run.scrollsPerformed =
    (tried.map fun attempt => attempt.stats.scrollsPerformed).sum
  bindingFixes : harvest.stats.run.bindingFixes =
    (tried.map fun attempt => attempt.stats.bindingFixes).sum
  store : ∃ last, tried.getLast? = Option.some last ∧
    Leaves medium harvester recipe kept harvest.bindings last left

/-- The end of a harvest structures what was collected and takes the time, and that is all. -/
theorem finish_spec {started : Float} {harvest finished : Harvest} {here after : σ}
    (ran : harvester.finish started harvest here = (.ok finished, after)) :
    ∃ jobs durationMs, finished =
      { harvest with
        jobs
        stats := { harvest.stats with run := { harvest.stats.run with durationMs } } } := by
  obtain ⟨structured, there, structures, ran⟩ := Action.bind_ok ran
  rw [Action.get_bind_apply] at ran
  cases ran
  unfold Harvester.structured at structures
  cases given : harvester.extractor with
  | none =>
      rw [given] at structures
      cases structures
      exact ⟨_, _, rfl⟩
  | some extractor =>
      rw [given] at structures
      dsimp only at structures
      split at structures
      next =>
        cases structures
        exact ⟨_, _, rfl⟩
      next =>
        obtain ⟨_, told, -, structures⟩ := Action.bind_ok structures
        obtain ⟨jobs, _, -, structures⟩ := Action.bind_ok structures
        cases structures
        exact ⟨jobs, _, rfl⟩

/-- A harvest that returns has made one attempt or two, and its report and its store are what
these make of them. -/
theorem harvest_effect (shipped : medium.Shipped) {recipe : Recipe} {fresh : Bool} {world : σ}
    {kept left : τ} {harvest : Harvest} {after : σ}
    (returned : (harvester.keeping medium).harvest recipe fresh (world, kept) =
      (.ok harvest, after, left)) :
    ∃ tried ended,
      (harvester.keeping medium).tries recipe maxAttempts fresh (world, kept) =
        (.ok tried, ended) ∧
      Effect medium harvester recipe kept tried harvest left := by
  rw [harvest_apply, attempts_eq_tries _ _ _ _ rfl] at returned
  obtain ⟨report, ended, looped, finishes⟩ := Action.bind_ok returned
  obtain ⟨tried, last, ran, looped⟩ := Action.bind_ok looped
  cases looped
  refine ⟨tried, ended, ran, ?_⟩
  have still : left = ended.2 := (finish_framed harvester _ _ _).leaves finishes
  obtain ⟨jobs, durationMs, rfl⟩ := finish_spec finishes
  obtain ⟨earlier, last, rfl, most, invited, makes, keeps⟩ := tries_spec medium harvester ran
  have none : (earlier.foldl Harvest.tally {}).items = [] :=
    Harvest.tally_items_invited invited rfl
  have counts (count : RunStats → Nat) (none : count {} = 0)
      (add : ∀ total stats, count (total.add stats) = count total + count stats) :
      count ((earlier ++ [last]).foldl Harvest.tally {}).stats.run =
        ((earlier ++ [last]).map fun attempt => count attempt.stats).sum := by
    rw [Harvest.tally_count none add, none, Nat.zero_add]
  exact {
    attempts := by
      rw [Harvest.tally_attempts, Nat.zero_add]
    some := by simp
    most := by
      rw [List.length_append, List.length_singleton]
      exact Nat.succ_le_succ most
    again := by
      intro first second same
      have split : earlier ++ [last] = [first] ++ [second] := same
      have one : earlier = [first] := List.append_inj_left' split rfl
      exact Attempt.invites_iff.mp (invited first (by simp [one]))
    items := by
      have shown : earlier.flatMap Attempt.items = [] :=
        List.flatMap_eq_nil_iff.mpr fun attempt found =>
          Attempt.items_of_invites (invited attempt found)
      rw [List.flatMap_append, shown, List.foldl_append]
      simp only [List.foldl_cons, List.foldl_nil, List.flatMap_cons, List.flatMap_nil,
        List.append_nil, List.nil_append]
      exact Harvest.tally_items last none
    commandsExecuted := counts RunStats.commandsExecuted rfl fun _ _ => rfl
    itemsProcessed := counts RunStats.itemsProcessed rfl fun _ _ => rfl
    scrollsPerformed := counts RunStats.scrollsPerformed rfl fun _ _ => rfl
    bindingFixes := counts RunStats.bindingFixes rfl fun _ _ => rfl
    store := by
      refine ⟨last, List.getLast?_concat, ?_⟩
      rw [still]
      refine keeps.leaves shipped (makes last (by simp)) fun acquired result record same => ?_
      subst same
      rw [List.foldl_append]
      rfl }

end Harvester

namespace Rehearsal

/-- The list stands in a new place. Asked for a repair the model has none, but asked about the page
it knows the place. -/
def movedList : World :=
  { stage := { url := "https://jobs.example.com", selectors := [("#list", 1)] }
    advice :=
      { answers :=
          [.ok (ScriptedModel.reply "" (.int 0)),
            .ok (ScriptedModel.reply "\x7b\"LIST\": \"#list\", \"LIST_ITEM\": \".job\"\x7d"
              (.int 0))] } }

/-- The first version of a record, which has the list in its old place. -/
def oldPlace : PageBindings :=
  { id := "a"
    urlPattern := "jobs.example.com"
    list := "#old"
    listItem := ".job"
    detailsPanel := some ".details"
    detailsContent := [".details"]
    states :=
      { listLoaded := some (.present "#old")
        detailsLoaded := some (.present ".details")
        noMoreItems := some (.present ".end") }
    itemId := some { source := .data }
    updatedAt := 1700000000 }

def toList : Recipe :=
  { id := "recipe", commands := [.goTo "list"] }

/-- How many attempts a harvest makes that finds the old place stored, and the versions of the
records that it leaves. -/
def movedHarvest : Option (Nat × List (String × Int)) :=
  let (harvest, _, left) :=
    (harvester.keeping .memory).harvest toList false (movedList, [("a", oldPlace)])
  harvest.toOption.map fun harvest =>
    (harvest.stats.attempts, left.map fun entry => (entry.1, entry.2.version))

end Rehearsal

open Rehearsal

/-- The first attempt fails with the old place, and the second one replaces the record. -/
theorem Harvester.harvest_effect_when_moved :
    ∃ harvest after left tried ended,
      (harvester.keeping .memory).harvest toList false (movedList, [("a", oldPlace)]) =
        (.ok harvest, after, left) ∧
      (harvester.keeping .memory).tries toList maxAttempts false (movedList, [("a", oldPlace)]) =
        (.ok tried, ended) ∧
      Effect .memory harvester toList [("a", oldPlace)] tried harvest left ∧
      tried.length = 2 ∧ left.map (fun entry => (entry.1, entry.2.version)) = [("a", 2)] := by
  have facts : movedHarvest = some (2, [("a", 2)]) := by decide +kernel
  unfold movedHarvest at facts
  rcases returned : (harvester.keeping .memory).harvest toList false
    (movedList, [("a", oldPlace)]) with ⟨fault | harvest, after, left⟩
  · rw [returned] at facts
    cases facts
  · rw [returned] at facts
    obtain ⟨attempts, versions⟩ := Prod.ext_iff.mp (Option.some.inj facts)
    obtain ⟨tried, ended, ran, effect⟩ := harvest_effect .memory returned
    exact ⟨harvest, after, left, tried, ended, rfl, ran, effect, effect.attempts ▸ attempts,
      versions⟩

end Gleaner
