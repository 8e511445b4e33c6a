import Gleaner.Proofs.Run.Keeping
import Gleaner.Recipe.Template
import Gleaner.Rehearsal.World

/-!
# The ledger of the built-in recipes

At every item boundary of a built-in recipe the ids of the saved items are exactly the ids that
are marked as done, in that order and each once. Only the save that reaches the bound leaves an
item unmarked, and then the run is stopped. The page may answer whatever it likes.
-/

set_option autoImplicit false

namespace Gleaner

variable {σ : Type}

namespace Session

/-- The saved items are those that are done, each once, and there is room for one more. -/
structure Even (most : Nat) (session : Session σ) : Prop where
  maxItems : session.maxItems = some most
  saved : session.run.collected.map (·.id) = session.run.processed
  distinct : session.run.processed.Nodup
  counted : session.run.stats.itemsProcessed = session.run.processed.length
  room : session.run.collected.length < most

/-- The last item that fits is saved and not yet marked as done, and the run is stopped. -/
structure Full (most : Nat) (session : Session σ) : Prop where
  saved : ∃ last, session.run.collected.map (·.id) = session.run.processed ++ [last]
  distinct : (session.run.collected.map (·.id)).Nodup
  counted : session.run.stats.itemsProcessed = session.run.processed.length
  full : session.run.collected.length = most
  stopped : session.run.stopped = true

/-- What holds between items. -/
def Settled (most : Nat) (session : Session σ) : Prop :=
  session.Even most ∨ session.Full most

/-- The item with an id is being worked on; it is neither saved nor done. -/
structure Working (most : Nat) (id : String) (session : Session σ) : Prop where
  even : session.Even most
  current : ∃ item, session.run.current = some item ∧ item.id = id
  fresh : id ∉ session.run.processed
  going : session.run.stopped = false
  unskipped : session.run.skipping = false

/-- The item with an id is saved and still to be marked as done. -/
structure Saved (most : Nat) (id : String) (session : Session σ) : Prop where
  maxItems : session.maxItems = some most
  saved : session.run.collected.map (·.id) = session.run.processed ++ [id]
  distinct : (session.run.processed ++ [id]).Nodup
  counted : session.run.stats.itemsProcessed = session.run.processed.length
  current : ∃ item, session.run.current = some item ∧ item.id = id
  unskipped : session.run.skipping = false
  bound : session.run.stopped = false ∧ session.run.collected.length < most ∨
    session.run.stopped = true ∧ session.run.collected.length = most

theorem settled_lasting (most : Nat) : Lasting (Settled most : Session σ → Prop) := by
  intro before after same settled
  rcases settled with even | full
  · refine .inl ⟨same.maxItems.trans even.maxItems, ?_, ?_, ?_, ?_⟩
    · rw [same.collected, same.processed, even.saved]
    · rw [same.processed]
      exact even.distinct
    · rw [same.itemsProcessed, same.processed, even.counted]
    · rw [same.collected]
      exact even.room
  · refine .inr ⟨?_, ?_, ?_, ?_, same.stopped full.stopped⟩
    · rw [same.collected, same.processed]
      exact full.saved
    · rw [same.collected]
      exact full.distinct
    · rw [same.itemsProcessed, same.processed, full.counted]
    · rw [same.collected, full.full]

theorem Saved.full {most : Nat} {id : String} {session : Session σ}
    (saved : session.Saved most id) (stopped : session.run.stopped = true) :
    session.Full most := by
  refine ⟨⟨id, saved.saved⟩, ?_, saved.counted, ?_, stopped⟩
  · rw [saved.saved]
    exact saved.distinct
  · rcases saved.bound with ⟨going, _⟩ | ⟨_, full⟩
    · exact absurd stopped (Bool.eq_false_iff.mp going)
    · exact full

end Session

/-!
## The body for one item
-/

section Item

variable (host : Host σ) {most : Nat} {id : String}

/-- Commands that only look, or take the details, leave an item as it is being worked on. -/
theorem Command.run_working {command : Command} (plain : command.isPlain = true)
    (takes : command.onlyLooks = true ∨ ∃ given, command = .extractDetails given) :
    Keeps (Session.Working most id) (command.run host) := by
  intro session working
  obtain ⟨run, world, reached, deed⟩ := command.run_deed host plain session
  have kept : ∃ content, run = { session.run.countCommand with content } := by
    generalize (command.run host session).1 = outcome at deed
    cases deed with
    | failed => exact ⟨session.run.countCommand.content, rfl⟩
    | looked => exact ⟨session.run.countCommand.content, rfl⟩
    | extracted text => exact ⟨some text, rfl⟩
    | _ =>
        rcases takes with looks | ⟨given, same⟩
        · cases looks
        · cases same
  obtain ⟨content, rfl⟩ := kept
  rw [reached]
  obtain ⟨⟨maxItems, saved, distinct, counted, room⟩, current, fresh, going, unskipped⟩ := working
  exact ⟨⟨maxItems, saved, distinct, counted, room⟩, current, fresh, going, unskipped⟩

/-- Saving either fails and leaves the item as it is, or saves it. -/
theorem Command.run_save (label : String) {session : Session σ}
    (working : session.Working most id) :
    if ((Command.save label).run host session).1.isOk then
      ((Command.save label).run host session).2.Saved most id
    else ((Command.save label).run host session).2.Even most := by
  obtain ⟨run, world, reached, deed⟩ := (Command.save label).run_deed host rfl session
  obtain ⟨⟨maxItems, saved, distinct, counted, room⟩, ⟨item, current, same⟩, fresh, going,
    unskipped⟩ := working
  rw [reached]
  generalize ((Command.save label).run host session).1 = outcome at deed
  cases deed with
  | failed => exact ⟨maxItems, saved, distinct, counted, room⟩
  | looked onlyLooks => cases onlyLooks
  | saved chosen content savedAt found =>
      have chosen_id : chosen.id = id := by
        have found : session.run.current = some chosen := found
        rw [current] at found
        cases found
        exact same
      rw [maxItems]
      refine ⟨rfl, ?_, ?_, counted, ⟨item, current, same⟩, unskipped,
        Run.keep_bound _ going room⟩
      · show (session.run.collected ++ [_]).map _ = session.run.processed ++ [id]
        rw [List.map_append, saved]
        exact congrArg (session.run.processed ++ [·]) chosen_id
      · refine List.nodup_append.mpr ⟨distinct, List.pairwise_singleton _ _, ?_⟩
        intro known among new isNew equal
        rw [equal, List.mem_singleton.mp isNew] at among
        exact fresh among

/-- Marking a saved item as done makes the ledger even again. -/
theorem Command.run_markDone {session : Session σ} (saved : session.Saved most id)
    (going : session.run.stopped = false) :
    (Command.markDone.run host session).2.Even most := by
  obtain ⟨maxItems, saved, distinct, counted, ⟨item, current, same⟩, unskipped, bound⟩ := saved
  have done : Command.markDone.run host session =
      (.ok (.marked item.id), { session with run := session.run.countCommand.markProcessed item.id }) := by
    simp [Command.run, report_apply, Interp.markDone, Interp.bind_apply, current, Session.counted,
      Run.countCommand]
  have fresh : id ∉ session.run.processed := by
    intro known
    exact (List.nodup_append.mp distinct).2.2 id known id (List.mem_singleton_self id) rfl
  have marked : session.run.countCommand.markProcessed item.id =
      { session.run.countCommand with
        processed := session.run.processed ++ [id]
        stats := { session.run.countCommand.stats with
          itemsProcessed := session.run.stats.itemsProcessed + 1 } } := by
    simp [Run.markProcessed, Run.isProcessed, Run.countCommand, same, fresh]
  rw [done, marked]
  refine ⟨maxItems, saved, distinct, ?_, ?_⟩
  · simp [counted]
  · rcases bound with ⟨_, room⟩ | ⟨stopped, _⟩
    · exact room
    · exact absurd stopped (Bool.eq_false_iff.mp going)

/-- A step that keeps what holds before it, in front of steps that lead on from there. -/
theorem untilFailure_next {P Q : Session σ → Prop} {step : Step σ} {rest : List (Step σ)}
    (keeps : Keeps P step) (enough : ∀ session, P session → Q session)
    (leads : ∀ session, P session → Q (untilFailure rest session).2) :
    ∀ session, P session → Q (untilFailure (step :: rest) session).2 := by
  intro session holds
  have after := keeps session holds
  rw [untilFailure_cons]
  split
  · exact enough _ holds
  · split
    · exact leads _ after
    · exact enough _ after

/-- Wherever the body for an item ends, the ledger is settled again. -/
theorem takeItem_settled {session : Session σ} (working : session.Working most id) :
    (untilFailure (Command.steps host
      [.click, .waitFor .details, .extractDetails none, .save "job", .markDone])
      session).2.Settled most := by
  have even (session : Session σ) (working : session.Working most id) : session.Settled most :=
    .inl working.even
  refine untilFailure_next (Command.run_working host rfl (.inl rfl)) even ?_ session working
  refine untilFailure_next (Command.run_working host rfl (.inl rfl)) even ?_
  refine untilFailure_next (Command.run_working host rfl (.inr ⟨none, rfl⟩)) even ?_
  intro session working
  have ended := Command.run_save host "job" working
  rw [Command.steps, untilFailure_cons]
  split
  · exact even _ working
  · split
    next isOk =>
      rw [if_pos isOk] at ended
      rw [Command.steps, Command.steps, untilFailure_cons, ended.unskipped, Bool.or_false]
      split
      next stopped => exact .inr (ended.full stopped)
      next going =>
        have even := Command.run_markDone host ended (Bool.eq_false_iff.mpr going)
        split <;> exact .inl even
    next failed =>
      rw [if_neg failed] at ended
      exact .inl ended

end Item

/-!
## The recipes
-/

variable (host : Host σ) {most : Nat}

theorem takeItems_settled : Keeps (Session.Settled most) (Template.takeItems.run host) := by
  have enduring := (Session.settled_lasting most (σ := σ)).enduring
  refine .report enduring.steady (.forEachItem enduring.steady ?_)
  intro session current settled going fresh
  have even : session.Even most := by
    rcases settled with even | full
    · exact even
    · exact absurd full.stopped (Bool.eq_false_iff.mp going)
  obtain ⟨maxItems, saved, distinct, counted, room⟩ := even
  exact takeItem_settled host ⟨⟨maxItems, saved, distinct, counted, room⟩, ⟨current, rfl, rfl⟩,
    fresh rfl, going, rfl⟩

/-- Commands that neither save nor mark keep the ledger settled. -/
theorem Command.run_settled {command : Command} (plain : command.isPlain = true)
    (quiet : command.writesLedger = false) : Keeps (Session.Settled most) (command.run host) :=
  .plain (Session.settled_lasting most).enduring plain quiet

theorem extractionLoop_settled (count : Nat) :
    ∀ command ∈ Template.extractionLoop count,
      Keeps (Session.Settled most) (command.run host) := by
  have enduring := (Session.settled_lasting most (σ := σ)).enduring
  have quiet {command : Command} (plain : command.isPlain = true)
      (quiet : command.writesLedger = false) : Keeps (Session.Settled most) (command.run host) :=
    command.run_settled host plain quiet
  have buttons : ∀ command ∈
      [Command.clickIfExists "loadMoreButton", .clickIfExists "nextPageButton", .wait 2],
      Keeps (Session.Settled most) (command.run host) := by
    simp only [List.forall_mem_cons]
    exact ⟨quiet rfl rfl, quiet rfl rfl, quiet rfl rfl, List.forall_mem_nil _⟩
  have body : ∀ command ∈ Template.takeItems :: Template.loadMore,
      Keeps (Session.Settled most) (command.run host) := by
    simp only [Template.loadMore, List.forall_mem_cons]
    exact ⟨takeItems_settled host, quiet rfl rfl, quiet rfl rfl, quiet rfl rfl,
      .attempt enduring.steady (.choose enduring.steady (.steps buttons) (List.forall_mem_nil _)),
      List.forall_mem_nil _⟩
  simp only [Template.extractionLoop, List.forall_mem_cons]
  exact ⟨.report enduring.steady (.repeatUntil enduring (.steps body)), quiet rfl rfl,
    List.forall_mem_nil _⟩

theorem jobListing_settled (id url : String) (count : Nat) :
    ∀ command ∈ (Template.jobListing id url count).commands,
      Keeps (Session.Settled most) (command.run host) := by
  have quiet {command : Command} (plain : command.isPlain = true)
      (quiet : command.writesLedger = false) : Keeps (Session.Settled most) (command.run host) :=
    command.run_settled host plain quiet
  simp only [Template.jobListing, List.forall_mem_cons]
  exact ⟨quiet rfl rfl, quiet rfl rfl, quiet rfl rfl, extractionLoop_settled host count⟩

theorem jobSearch_settled (id url query : String) (count : Nat) :
    ∀ command ∈ (Template.jobSearch id url query count).commands,
      Keeps (Session.Settled most) (command.run host) := by
  have quiet {command : Command} (plain : command.isPlain = true)
      (quiet : command.writesLedger = false) : Keeps (Session.Settled most) (command.run host) :=
    command.run_settled host plain quiet
  simp only [Template.jobSearch, List.cons_append, List.nil_append, List.forall_mem_cons]
  exact ⟨quiet rfl rfl, quiet rfl rfl, quiet rfl rfl, quiet rfl rfl, quiet rfl rfl, quiet rfl rfl,
    quiet rfl rfl, quiet rfl rfl, extractionLoop_settled host count⟩

/-- A settled ledger has distinct ids within the bound, and at most one item is unmarked. -/
theorem Session.Settled.distinct {session : Session σ} (settled : session.Settled most) :
    (session.run.collected.map (·.id)).Nodup ∧ session.run.collected.length ≤ most ∧
      (session.run.stats.itemsProcessed = session.run.collected.length ∨
        session.run.collected.length = most ∧
          session.run.stats.itemsProcessed + 1 = session.run.collected.length) := by
  rcases settled with even | full
  · have lengths := congrArg List.length even.saved
    rw [List.length_map] at lengths
    refine ⟨even.saved ▸ even.distinct, Nat.le_of_lt even.room, .inl ?_⟩
    rw [even.counted, lengths]
  · obtain ⟨last, saved⟩ := full.saved
    have lengths := congrArg List.length saved
    rw [List.length_map, List.length_append, List.length_singleton] at lengths
    refine ⟨full.distinct, Nat.le_of_eq full.full, .inr ⟨full.full, ?_⟩⟩
    rw [full.counted, lengths]

/-- A built-in recipe returns distinct items, no more than asked for, and counts each of them as
processed; the last one may be left out when the number asked for is reached. -/
theorem builtIn_distinct (session : Session σ) (recipe : Recipe) (id url : String)
    (positive : 1 ≤ most)
    (builtIn : recipe = Template.jobListing id url most ∨
      ∃ query, recipe = Template.jobSearch id url query most) :
    ∃ result, (Session.execute host recipe session).1 = .ok result ∧
      (result.items.map (·.id)).Nodup ∧ result.items.length ≤ most ∧
      (result.stats.itemsProcessed = result.items.length ∨
        result.items.length = most ∧
          result.stats.itemsProcessed + 1 = result.items.length) := by
  have limits : recipe.limits = { maxItems := some most } := by
    rcases builtIn with rfl | ⟨query, rfl⟩ <;> rfl
  have commands : ∀ command ∈ recipe.commands,
      Keeps (Session.Settled most) (command.run host) := by
    rcases builtIn with rfl | ⟨query, rfl⟩
    · exact jobListing_settled host id url most
    · exact jobSearch_settled host id url query most
  have begun : (Session.begin host recipe.limits session).2.Settled most := by
    obtain ⟨fresh, bound⟩ := Session.begin_fresh host session recipe.limits
    rw [limits] at fresh bound ⊢
    refine .inl ⟨bound, ?_, ?_, ?_, ?_⟩
    all_goals rw [fresh]
    · rfl
    · exact .nil
    · rfl
    · exact positive
  obtain ⟨result, ended⟩ := Session.execute_ok host recipe session (by rw [limits])
  obtain ⟨items, stats⟩ := Session.execute_result host recipe session ended
  refine ⟨result, ended, ?_⟩
  rw [items, stats]
  exact (Keeps.execute (Session.settled_lasting most) begun commands).distinct

/-- Two items asked for on an empty stage. -/
theorem builtIn_distinct_on_empty_stage :
    let host : Host Rehearsal.World := { page := Rehearsal.page, clock := Rehearsal.clock }
    let session := Session.start Rehearsal.clock { updatedAt := 0 } {}
    let recipe := Template.jobSearch "recipe" "https://example.com/jobs" "engineer" 2
    ∃ result, (Session.execute host recipe session).1 = .ok result ∧
      (result.items.map (·.id)).Nodup ∧ result.items.length ≤ 2 ∧
      (result.stats.itemsProcessed = result.items.length ∨
        result.items.length = 2 ∧ result.stats.itemsProcessed + 1 = result.items.length) :=
  builtIn_distinct _ _ _ "recipe" "https://example.com/jobs" (by decide) (.inr ⟨"engineer", rfl⟩)

end Gleaner
