import Gleaner.Proofs.Run.Continuing
import Gleaner.Proofs.Run.Keeping
import Mathlib.Data.List.DropRight

/-!
# Stale passes

A repetition until there are no more items counts the passes that bring nothing new, and ends
when there are enough of them in a row. The count is that of the run: it goes on from where the
repetition before left it, and a repetition within the body adds to it. So the end of a
repetition whose body has no other one says of its own last passes that they brought nothing, as
many as the settings ask for; but there are fewer of them by as many as were counted before it.
-/

set_option autoImplicit false

namespace Gleaner

variable {σ α : Type}

/-- The stale passes in a row after some passes, of which each brought something new or not. -/
def staleAfter (before : Nat) (log : List Bool) : Nat :=
  log.foldl (fun stale fresh => if fresh then 0 else stale + 1) before

theorem staleAfter_le (before : Nat) (log : List Bool) :
    staleAfter before log ≤ before + log.length := by
  induction log generalizing before with
  | nil => exact Nat.le_refl before
  | cons fresh rest ih =>
      have further := ih (if fresh then 0 else before + 1)
      rw [List.length_cons]
      cases fresh with
      | true => exact further.trans (by simp; omega)
      | false => exact further.trans (by simp; omega)

/-- The last passes, up to as many as are counted, brought nothing new. -/
theorem stale_of_le_staleAfter {count before : Nat} {log : List Bool}
    (counted : count ≤ staleAfter before log) : ∀ fresh ∈ log.rtake count, fresh = false := by
  induction log using List.reverseRecOn generalizing count with
  | nil => simp
  | append_singleton log last ih =>
      rw [staleAfter, List.foldl_append] at counted
      cases count with
      | zero => simp
      | succ count =>
          cases last with
          | true => exact absurd counted (Nat.not_succ_le_zero count)
          | false =>
              rw [List.rtake_concat_succ]
              refine List.forall_mem_append.mpr ⟨ih (Nat.le_of_succ_le_succ counted), ?_⟩
              exact List.forall_mem_singleton.mpr rfl

/-!
## Bodies that leave the count as it is
-/

theorem Deed.staleRounds {most : Option Nat} {command : Command} {outcome : Outcome}
    {before after : Run} (deed : Deed most command outcome before after) :
    after.staleRounds = before.staleRounds := by
  cases deed with
  | marked current found =>
      obtain ⟨_, _, marked⟩ := before.markProcessed_ledger current.id
      rw [marked]
  | _ => rfl

mutual

/-- The command is or has a repetition, at any depth. -/
def Command.repeats : Command → Bool
  | .forEachItem body _ => Command.anyRepeats body
  | .choose _ thenBranch elseBranch =>
      Command.anyRepeats thenBranch || Command.anyRepeats elseBranch
  | .repeatUntil _ _ => true
  | _ => false

def Command.anyRepeats : List Command → Bool
  | [] => false
  | first :: rest => first.repeats || Command.anyRepeats rest

end

theorem staleRounds_steady (count : Nat) :
    Steady fun session : Session σ => session.run.staleRounds = count :=
  fun _ _ _ _ same counted => same.trans counted

mutual

theorem Command.run_staleRounds (host : Host σ) (count : Nat) (command : Command)
    (single : command.repeats = false) :
    Keeps (fun session => session.run.staleRounds = count) (command.run host) := by
  have steady := staleRounds_steady count (σ := σ)
  have plain {command : Command} (plain : command.isPlain = true) :
      Keeps (fun session : Session σ => session.run.staleRounds = count) (command.run host) := by
    intro session counted
    obtain ⟨run, world, reached, deed⟩ := command.run_deed host plain session
    rw [reached]
    exact deed.staleRounds.trans counted
  cases command with
  | forEachItem body skipProcessed =>
      exact .report steady (.forEachItem steady fun session current counted _ _ =>
        Keeps.untilFailure (Command.steps_staleRounds host count body single) _ counted)
  | choose condition thenBranch elseBranch =>
      obtain ⟨thenSingle, elseSingle⟩ := Bool.or_eq_false_iff.mp single
      exact .attempt steady (.choose steady
        (Command.steps_staleRounds host count thenBranch thenSingle)
        (Command.steps_staleRounds host count elseBranch elseSingle))
  | repeatUntil body goal => cases single
  | _ => exact plain (by rfl)

theorem Command.steps_staleRounds (host : Host σ) (count : Nat) (commands : List Command)
    (single : Command.anyRepeats commands = false) :
    ∀ step ∈ Command.steps host commands,
      Keeps (fun session => session.run.staleRounds = count) step := by
  cases commands with
  | nil => exact List.forall_mem_nil _
  | cons command rest =>
      obtain ⟨here, later⟩ := Bool.or_eq_false_iff.mp single
      exact List.forall_mem_cons.mpr
        ⟨Command.run_staleRounds host count command here,
          Command.steps_staleRounds host count rest later⟩

end

/-!
## The passes of a repetition
-/

/-- A session after a pass that brought something new or did not. -/
def Session.afterPass (fresh : Bool) (session : Session σ) : Session σ :=
  { session with run :=
    { session.run with staleRounds := if fresh then 0 else session.run.staleRounds + 1 } }

namespace Interp

variable (host : Host σ)

/-- Runs a body; whether the list grew in the meantime or something was saved. -/
def news (body : List (Step σ)) : Interp σ Bool := do
  let countBefore ← countItems host
  let collectedBefore := (← run).collected.length
  regardless body
  let countAfter ← countItems host
  return countBefore < countAfter || collectedBefore < (← run).collected.length

theorem pass_apply (body : List (Step σ)) (session : Session σ) :
    pass host body session =
      match news host body session with
      | (.ok fresh, after) => (.ok (), after.afterPass fresh)
      | (.error fault, after) => (.error fault, after) := by
  simp only [pass, news, bind_apply, run_apply, liftState_apply]
  rcases countItems host session with ⟨fault | countBefore, after⟩
  · rfl
  · dsimp only
    rcases countItems host (regardless body after).2 with ⟨fault | countAfter, final⟩ <;> rfl

theorem reached_noMoreItems (before : Nat) (session : Session σ) :
    reached host before .noMoreItems session =
      if host.settings.noNewItemsLimit ≤ session.run.staleRounds then (.ok true, session)
      else noMoreItems host session := by
  simp only [reached, bind_apply, run_apply]
  split <;> rfl

theorem news_keeps {I : Session σ → Prop} (steady : Steady I) {body : List (Step σ)}
    (bodyKeeps : ∀ step ∈ body, Keeps I step) : Keeps I (news host body) := by
  have counts : Keeps I (countItems host) := .looks steady (countItems_looks host)
  refine .bindOk counts fun _ => .bindOk (.looks steady .run) fun _ => ?_
  refine .bindOk (.bind (.regardless steady bodyKeeps) fun _ => .pure _) fun _ => ?_
  exact .bindOk counts fun _ => .bindOk (.looks steady .run) fun _ => .ok _

end Interp

/-- Why a repetition until there are no more items ends. -/
inductive Ending where
  /-- No more passes are allowed. -/
  | capped
  /-- The run is stopped, or its time is up. -/
  | halted
  /-- Enough passes in a row brought nothing new. -/
  | stale
  /-- The page says that there are no more items. -/
  | exhausted
  deriving DecidableEq, Repr

/-- The passes of a repetition until there are no more items, each with whether it brought
something new, from a session to where the repetition ends. -/
inductive Passes (host : Host σ) (body : List (Step σ)) :
    Session σ → List Bool → Ending → Session σ → Prop where
  | capped {session : Session σ} : Passes host body session [] .capped session
  | halted {session : Session σ} : session.checkTime.run.stopped = true →
      Passes host body session [] .halted session.checkTime
  | stale {session after : Session σ} {fresh : Bool} :
      session.checkTime.run.stopped = false →
      Interp.news host body session.checkTime = (.ok fresh, after) →
      host.settings.noNewItemsLimit ≤ (after.afterPass fresh).run.staleRounds →
      Passes host body session [fresh] .stale (after.afterPass fresh)
  | exhausted {session after looked final : Session σ} {fresh : Bool} :
      session.checkTime.run.stopped = false →
      Interp.news host body session.checkTime = (.ok fresh, after) →
      (after.afterPass fresh).run.staleRounds < host.settings.noNewItemsLimit →
      looked = after.afterPass fresh ∨
        Interp.noMoreItems host (after.afterPass fresh) = (.ok false, looked) →
      Interp.noMoreItems host looked = (.ok true, final) →
      Passes host body session [fresh] .exhausted final
  | next {session after looked middle final : Session σ} {fresh : Bool} {log : List Bool}
      {ending : Ending} :
      session.checkTime.run.stopped = false →
      Interp.news host body session.checkTime = (.ok fresh, after) →
      (after.afterPass fresh).run.staleRounds < host.settings.noNewItemsLimit →
      Interp.noMoreItems host (after.afterPass fresh) = (.ok false, looked) →
      Interp.noMoreItems host looked = (.ok false, middle) →
      Passes host body middle log ending final →
      Passes host body session (fresh :: log) ending final

namespace Passes

variable {host : Host σ} {body : List (Step σ)} {session final : Session σ} {log : List Bool}
  {ending : Ending}

/-- A repetition that ends without a fault goes through passes. -/
theorem ofPasses {before rounds left : Nat} {report : Report}
    (ended :
      Interp.passes host .noMoreItems body before rounds left session = (.ok report, final)) :
    ∃ log ending, Passes host body session log ending final ∧
      report = .repeated (rounds + log.length) (ending = .capped) := by
  induction left generalizing rounds session with
  | zero =>
      cases ended
      exact ⟨[], .capped, .capped, rfl⟩
  | succ left ih =>
      rw [Interp.passes_succ, Interp.pass_apply] at ended
      cases going : session.checkTime.run.stopped with
      | true =>
          rw [going] at ended
          cases ended
          exact ⟨[], .halted, .halted going, rfl⟩
      | false =>
          rcases ran : Interp.news host body session.checkTime with ⟨fault | fresh, after⟩
          · rw [going, ran] at ended
            cases ended
          · rw [going, ran] at ended
            simp only [Bool.false_eq_true, ↓reduceIte, Interp.reached_noMoreItems] at ended
            by_cases enough :
                host.settings.noNewItemsLimit ≤ (after.afterPass fresh).run.staleRounds
            · rw [if_pos enough] at ended
              cases ended
              exact ⟨[fresh], .stale, .stale going ran enough, rfl⟩
            · rw [if_neg enough] at ended
              have few := Nat.lt_of_not_le enough
              rcases first : Interp.noMoreItems host (after.afterPass fresh) with
                ⟨fault | _ | _, looked⟩
              · rw [first] at ended
                cases ended
              · rcases second : Interp.noMoreItems host looked with ⟨fault | _ | _, middle⟩
                · simp only [first, second] at ended
                  cases ended
                · simp only [first, second] at ended
                  obtain ⟨log, ending, passes, same⟩ := ih ended
                  refine ⟨fresh :: log, ending, .next going ran few first second passes, ?_⟩
                  rw [same, List.length_cons, Nat.add_right_comm, Nat.add_assoc]
                · simp only [first, second] at ended
                  cases ended
                  exact ⟨[fresh], .exhausted, .exhausted going ran few (.inr first) second, rfl⟩
              · rw [first] at ended
                cases ended
                exact ⟨[fresh], .exhausted, .exhausted going ran few (.inl rfl) first, rfl⟩

/-- The count after a pass, when the body leaves it as it is. -/
theorem staleRounds_afterPass {after : Session σ} {fresh : Bool}
    (bodyKeeps : ∀ count, ∀ step ∈ body,
      Keeps (fun session => session.run.staleRounds = count) step)
    (ran : Interp.news host body session.checkTime = (.ok fresh, after)) :
    (after.afterPass fresh).run.staleRounds = if fresh then 0 else session.run.staleRounds + 1 := by
  have kept := Interp.news_keeps host (staleRounds_steady session.run.staleRounds) (bodyKeeps _)
    session.checkTime session.checkTime_staleRounds
  rw [ran] at kept
  rw [← kept]
  rfl

/-- A stale end has as many stale passes in a row as the settings ask for, those before the
repetition included. -/
theorem staleRounds (passes : Passes host body session log ending final)
    (bodyKeeps : ∀ count, ∀ step ∈ body,
      Keeps (fun session => session.run.staleRounds = count) step)
    (stale : ending = .stale) :
    host.settings.noNewItemsLimit ≤ staleAfter session.run.staleRounds log := by
  induction passes with
  | capped => cases stale
  | halted => cases stale
  | exhausted => cases stale
  | stale _ ran enough =>
      rw [staleRounds_afterPass bodyKeeps ran] at enough
      exact enough
  | next _ ran _ first second _ ih =>
      have kept {session looked : Session σ} {answer : Bool}
          (found : Interp.noMoreItems host session = (.ok answer, looked)) :
          looked.run.staleRounds = session.run.staleRounds := by
        obtain ⟨world, reached⟩ := Interp.noMoreItems_looks host session
        rw [found] at reached
        exact congrArg (·.run.staleRounds) reached
      have further := ih stale
      rw [kept second, kept first, staleRounds_afterPass bodyKeeps ran] at further
      exact further

theorem stopped_of_halted (passes : Passes host body session log ending final)
    (ends : ending = .halted) : final.run.stopped = true := by
  induction passes with
  | halted stopped => exact stopped
  | next _ _ _ _ _ _ ih => exact ih ends
  | _ => cases ends

/-- Where the page says that there are no more items, it says so by the record of the session. -/
theorem found_of_exhausted (passes : Passes host body session log ending final)
    (bodyKeeps : ∀ b, ∀ step ∈ body, Keeps (fun session => session.bindings = b) step)
    (ends : ending = .exhausted) :
    ∃ looked, looked.bindings = session.bindings ∧
      Interp.noMoreItems host looked = (.ok true, final) := by
  have passed {session after : Session σ} {fresh : Bool}
      (ran : Interp.news host body session.checkTime = (.ok fresh, after)) :
      (after.afterPass fresh).bindings = session.bindings := by
    have kept := Interp.news_keeps host (bindings_enduring session.bindings).steady (bodyKeeps _)
      session.checkTime session.checkTime_bindings
    rwa [ran] at kept
  have looking {session looked : Session σ} {answer : Bool}
      (found : Interp.noMoreItems host session = (.ok answer, looked)) :
      looked.bindings = session.bindings := by
    obtain ⟨world, reached⟩ := Interp.noMoreItems_looks host session
    rw [found] at reached
    exact congrArg (·.bindings) reached
  induction passes with
  | exhausted _ ran _ looks found =>
      refine ⟨_, ?_, found⟩
      rcases looks with rfl | first
      · exact passed ran
      · exact (looking first).trans (passed ran)
  | next _ ran _ first second _ ih =>
      obtain ⟨looked, same, found⟩ := ih ends
      refine ⟨looked, ?_, found⟩
      exact same.trans ((looking second).trans ((looking first).trans (passed ran)))
  | _ => cases ends

end Passes

/-- A repetition until there are no more items that ends before its cap, while the run goes on
and the page does not say that it is the end, had nothing new in its own last passes, as many as
the settings ask for; if it had fewer, then as many as it lacks were counted before it began.
Its body has no other repetition, which would count its passes as well. -/
theorem Command.repeatUntil_stale (host : Host σ) {body : List Command} {session final : Session σ}
    {rounds : Nat} (single : Command.anyRepeats body = false)
    (ended : (Command.repeatUntil body .noMoreItems).run host session =
      (.ok (.repeated rounds false), final))
    (going : final.run.stopped = false)
    (unmet : ∀ looked : Session σ, looked.bindings = session.bindings →
      Interp.noMoreItems host looked ≠ (.ok true, final)) :
    ∃ log, Passes host (Command.steps host body) session.counted log .stale final ∧
      log.length = rounds ∧
      host.settings.noNewItemsLimit ≤ session.run.staleRounds + rounds ∧
      ∀ fresh ∈ log.rtake host.settings.noNewItemsLimit, fresh = false := by
  rw [Command.run, report_apply] at ended
  rcases ran : Interp.repeatUntil host .noMoreItems (Command.steps host body) session.counted with
    ⟨fault | report, after⟩
  · rw [ran] at ended
    obtain ⟨error, repairable, same⟩ := Outcome.ofFault_failed fault
    rw [Outcome.ofResult_error, same] at ended
    cases ended
  · rw [ran] at ended
    cases ended
    obtain ⟨log, ending, passes, same⟩ := Passes.ofPasses ran
    obtain ⟨counted, uncapped⟩ := Report.repeated.inj same
    rw [Nat.zero_add] at counted
    cases ending with
    | capped => cases uncapped
    | halted => exact absurd (passes.stopped_of_halted rfl) (Bool.eq_false_iff.mp going)
    | exhausted =>
        obtain ⟨looked, same, found⟩ :=
          passes.found_of_exhausted (fun b => Command.steps_bindings host b body) rfl
        exact absurd found (unmet looked same)
    | stale =>
        have enough := passes.staleRounds
          (fun count => Command.steps_staleRounds host count body single) rfl
        refine ⟨log, passes, counted.symm, ?_, stale_of_le_staleAfter enough⟩
        rw [counted]
        exact enough.trans (staleAfter_le _ _)

/-!
## Two repetitions in a row
-/

namespace Rehearsal

def plainHost : Host World :=
  { page, clock }

/-- Scrolls until there are no more items. -/
def scrolling : Command :=
  .repeatUntil [.scroll .page .down] .noMoreItems

def twiceRecipe : Recipe where
  id := "twice"
  commands := [scrolling, scrolling]

/-- Where nothing was counted before, the last three passes of the repetition brought nothing. -/
theorem repeatUntil_stale_on_singleStart :
    ∃ log : List Bool, log.length = 3 ∧ ∀ fresh ∈ log.rtake 3, fresh = false := by
  have answer : (scrolling.run plainHost singleStart).1 = .ok (.repeated 3 false) := by
    decide +kernel
  have ended : scrolling.run plainHost singleStart =
      (.ok (.repeated 3 false), (scrolling.run plainHost singleStart).2) := by
    rw [← answer, Prod.eta]
  have unmet (looked : Session World) (same : looked.bindings = singleStart.bindings) :
      Interp.noMoreItems plainHost looked ≠
        (.ok true, (scrolling.run plainHost singleStart).2) := by
    have unset : Interp.noMoreItems plainHost looked = (.ok false, looked) := by
      simp only [Interp.noMoreItems, Interp.bind_apply, Interp.bindings_apply, same]
      rfl
    rw [unset]
    intro found
    cases found
  obtain ⟨log, -, length, -, stale⟩ :=
    Command.repeatUntil_stale plainHost (by rfl) ended (by decide +kernel) unmet
  exact ⟨log, length, stale⟩

/-- The second repetition ends after its first pass, by the stale passes of the first one. -/
theorem twiceRecipe_stops_early :
    (Telling.execute plainHost twiceRecipe (singleStart, [])).2.2.filterMap
        (·.starting.map Command.tag) =
      ["REPEAT", "SCROLL", "SCROLL", "SCROLL", "REPEAT", "SCROLL"] := by
  decide +kernel

end Rehearsal

end Gleaner
