import Gleaner.Proofs.Run.Deed
import Gleaner.Proofs.Run.Details
import Gleaner.Rehearsal.World

/-!
# What is extracted

An extraction reads the page until a group of selectors has text: attempt by attempt, and group
by group in each. All that it does on the page is told here as a log of reads and pauses. What it
extracts is the text of one group at one attempt, or what the current item says by itself.
-/

set_option autoImplicit false

namespace Gleaner

variable {σ α β : Type}

theorem joinTexts_blank {texts : List String}
    (blank : ∀ text ∈ texts, Text.isBlankText text = true) : joinTexts texts = "" := by
  have none : texts.filter (fun text => !Text.isBlankText text) = [] := by
    apply List.filter_eq_nil_iff.mpr
    intro text found
    rw [blank text found]
    exact Bool.false_ne_true
  rw [joinTexts, none]
  rfl

/-- The only pauses that the clock cannot make are those out of range. -/
def Clock.Rests (clock : Clock σ) : Prop :=
  ∀ ms world seconds, (Span.ofMs ms).toSeconds = .ok seconds →
    ∃ later, clock.pause (.ofMs ms) world = (.ok (), later)

namespace Extraction

/-- What an extraction does on the page. -/
inductive Event where
  | read (selector : String) (texts : List String)
  | paused
  deriving DecidableEq, Repr

/-- The reads of a group, with the texts that each of its selectors gave. -/
def readsOf (group : List String) (answers : List (List String)) : List Event :=
  List.zipWith .read group answers

/-- One attempt: the groups are read in order up to the first one that has text, each with all
of its selectors. What it finds are the texts of that group, trimmed and joined, without those
that are blank. -/
inductive Attempt : List (List String) → List Event → Option String → Prop where
  | exhausted : Attempt [] [] none
  | blank {group : List String} {rest : List (List String)} {answers : List (List String)}
      {log : List Event} {found : Option String} :
      answers.length = group.length →
      (∀ text ∈ answers.flatten, Text.isBlankText text = true) →
      Attempt rest log found → Attempt (group :: rest) (readsOf group answers ++ log) found
  | found {group : List String} {rest : List (List String)} {answers : List (List String)} :
      answers.length = group.length →
      (∃ text ∈ answers.flatten, Text.isBlankText text = false) →
      Attempt (group :: rest) (readsOf group answers) (some (joinTexts answers.flatten))

/-- An attempt up to a selector that is yet to be read, with the reads before it. -/
inductive Attempt.UpTo : List (List String) → List Event → String → Prop where
  | here {read unread : List String} {selector : String} {rest : List (List String)}
      {answers : List (List String)} :
      answers.length = read.length →
      UpTo ((read ++ selector :: unread) :: rest) (readsOf read answers) selector
  | later {group : List String} {rest : List (List String)} {answers : List (List String)}
      {log : List Event} {selector : String} :
      answers.length = group.length →
      (∀ text ∈ answers.flatten, Text.isBlankText text = true) →
      UpTo rest log selector → UpTo (group :: rest) (readsOf group answers ++ log) selector

/-- So many attempts at most, up to the first one that finds text: all of them if none does. -/
structure Attempts (groups : List (List String)) (most : Nat)
    (attempts : List (List Event × Option String)) (found : Option String) : Prop where
  each : ∀ attempt ∈ attempts, Attempt groups attempt.1 attempt.2
  earlier : ∀ attempt ∈ attempts.dropLast, attempt.2 = none
  last : found = attempts.getLast?.bind (·.2)
  few : attempts.length ≤ most
  all : found = none → attempts.length = most

theorem Attempts.none (groups : List (List String)) : Attempts groups 0 [] none :=
  ⟨List.forall_mem_nil _, List.forall_mem_nil _, rfl, Nat.le_refl 0, fun _ => rfl⟩

/-- The first attempt is the last one if it finds text, or if no more are allowed. -/
theorem Attempts.one {groups : List (List String)} {log : List Event} {found : Option String}
    {others : Nat} (attempt : Attempt groups log found) (ends : found = .none → others = 0) :
    Attempts groups (others + 1) [(log, found)] found where
  each := List.forall_mem_singleton.mpr attempt
  earlier := List.forall_mem_nil _
  last := rfl
  few := Nat.succ_le_succ (Nat.zero_le others)
  all := fun nothing => congrArg (· + 1) (ends nothing).symm

/-- After an attempt that finds nothing there are others. -/
theorem Attempts.cons {groups : List (List String)} {log : List Event} {found : Option String}
    {others : Nat} {rest : List (List Event × Option String)} (attempt : Attempt groups log .none)
    (attempts : Attempts groups others rest found) (nonempty : rest ≠ []) :
    Attempts groups (others + 1) ((log, .none) :: rest) found where
  each := List.forall_mem_cons.mpr ⟨attempt, attempts.each⟩
  earlier := by
    rw [List.dropLast_cons_of_ne_nil nonempty]
    exact List.forall_mem_cons.mpr ⟨rfl, attempts.earlier⟩
  last := by
    rw [List.getLast?_cons_of_ne_nil nonempty]
    exact attempts.last
  few := Nat.succ_le_succ attempts.few
  all := fun nothing => congrArg (· + 1) (attempts.all nothing)

theorem Attempts.nonempty {groups : List (List String)} {found : Option String} {most : Nat}
    {attempts : List (List Event × Option String)} (all : Attempts groups most attempts found)
    (allowed : most ≠ 0) : attempts ≠ [] := by
  rintro rfl
  exact allowed (all.all all.last).symm

/-- The log of some attempts has one pause between any two of them. -/
def logOf (attempts : List (List Event × Option String)) : List Event :=
  [.paused].intercalate (attempts.map (·.1))

theorem logOf_one (log : List Event) (found : Option String) : logOf [(log, found)] = log :=
  List.intercalate_singleton

theorem logOf_cons (log : List Event) (found : Option String)
    {rest : List (List Event × Option String)} (nonempty : rest ≠ []) :
    logOf ((log, found) :: rest) = log ++ [.paused] ++ logOf rest :=
  List.intercalate_cons_of_ne_nil (mt List.map_eq_nil_iff.mp nonempty)

/-- So many attempts at most, up to a selector that is yet to be read in the last one, with the
log before that; those before the last one have found nothing. -/
def Attempts.UpTo (groups : List (List String)) (most : Nat) (log : List Event)
    (selector : String) : Prop :=
  ∃ attempts last, (∀ attempt ∈ attempts, Attempt groups attempt .none) ∧
    attempts.length < most ∧ Attempt.UpTo groups last selector ∧
    log = [.paused].intercalate (attempts ++ [last])

theorem Attempts.UpTo.first {groups : List (List String)} {log : List Event} {selector : String}
    (upTo : Attempt.UpTo groups log selector) (others : Nat) :
    UpTo groups (others + 1) log selector :=
  ⟨[], log, List.forall_mem_nil _, Nat.succ_pos others, upTo, List.intercalate_singleton.symm⟩

theorem Attempts.UpTo.cons {groups : List (List String)} {first log : List Event}
    {selector : String} {others : Nat} (attempt : Attempt groups first .none)
    (upTo : UpTo groups others log selector) :
    UpTo groups (others + 1) (first ++ ([.paused] ++ log)) selector := by
  obtain ⟨attempts, last, each, few, lastUpTo, rfl⟩ := upTo
  refine ⟨first :: attempts, last, List.forall_mem_cons.mpr ⟨attempt, each⟩,
    Nat.succ_lt_succ few, lastUpTo, ?_⟩
  have nonempty : attempts ++ [last] ≠ [] :=
    List.append_ne_nil_of_right_ne_nil _ (List.cons_ne_nil last [])
  rw [← List.append_assoc, ← List.intercalate_cons_of_ne_nil nonempty]
  rfl

variable (host : Host σ)

/-- The log leads from one world to another. -/
inductive Performs : σ → List Event → σ → Prop where
  | done {world : σ} : Performs world [] world
  | read {world later final : σ} {selector : String} {texts : List String} {log : List Event} :
      host.page.texts selector world = (.ok texts, later) → Performs later log final →
      Performs world (.read selector texts :: log) final
  | paused {world later final : σ} {log : List Event} :
      host.clock.pause (.ofMs host.settings.extractRetryDelayMs) world = (.ok (), later) →
      Performs later log final → Performs world (.paused :: log) final

/-- After one of the logs the read of its selector raises a fault. -/
def Breaks (upTo : List Event → String → Prop) (world : σ) (fault : Fault) (later : σ) : Prop :=
  ∃ log middle selector, upTo log selector ∧ Performs host world log middle ∧
    host.page.texts selector middle = (.error fault, later)

variable {host}

theorem Performs.append {world middle final : σ} {log more : List Event}
    (performs : Performs host world log middle) (further : Performs host middle more final) :
    Performs host world (log ++ more) final := by
  induction performs with
  | done => exact further
  | read told _ ih => exact .read told (ih further)
  | paused told _ ih => exact .paused told (ih further)

theorem Breaks.after {upTo : List Event → String → Prop} {world middle later : σ}
    {log : List Event} {fault : Fault} (performs : Performs host world log middle)
    (breaks : Breaks host (fun more => upTo (log ++ more)) middle fault later) :
    Breaks host upTo world fault later := by
  obtain ⟨more, last, selector, reaches, further, raised⟩ := breaks
  exact ⟨log ++ more, last, selector, reaches, performs.append further, raised⟩

theorem Breaks.mono {upTo weaker : List Event → String → Prop} {world later : σ} {fault : Fault}
    (breaks : Breaks host upTo world fault later)
    (implies : ∀ log selector, upTo log selector → weaker log selector) :
    Breaks host weaker world fault later := by
  obtain ⟨log, middle, selector, reaches, performs, raised⟩ := breaks
  exact ⟨log, middle, selector, implies log selector reaches, performs, raised⟩

variable (host)

/-- A program that only performs a log, which tells its value, unless a read raises a fault after
one of the logs that lead up to it. -/
def Recites (prog : Interp σ α) (upTo : List Event → String → Prop)
    (tells : α → List Event → Prop) : Prop :=
  ∀ session, (∃ fault later, Breaks host upTo session.world fault later ∧
      prog session = (.error fault, { session with world := later })) ∨
    ∃ value log final, Performs host session.world log final ∧ tells value log ∧
      prog session = (.ok value, { session with world := final })

variable {host}

namespace Recites

variable {upTo : List Event → String → Prop}

theorem pure {tells : α → List Event → Prop} {value : α} (told : tells value []) :
    Recites host (Pure.pure value : Interp σ α) upTo tells :=
  fun session => .inr ⟨value, [], session.world, .done, told, rfl⟩

theorem mono {prog : Interp σ α} {weakerUpTo : List Event → String → Prop}
    {tells weaker : α → List Event → Prop} (recites : Recites host prog upTo tells)
    (impliesUpTo : ∀ log selector, upTo log selector → weakerUpTo log selector)
    (implies : ∀ value log, tells value log → weaker value log) :
    Recites host prog weakerUpTo weaker := by
  intro session
  obtain ⟨fault, later, breaks, ran⟩ | ⟨value, log, final, performs, told, ran⟩ := recites session
  · exact .inl ⟨fault, later, breaks.mono impliesUpTo, ran⟩
  · exact .inr ⟨value, log, final, performs, implies value log told, ran⟩

theorem bind {first : Interp σ α} {next : α → Interp σ β} {tells : α → List Event → Prop}
    {tellsNext : β → List Event → Prop} (recites : Recites host first upTo tells)
    (nextRecites : ∀ value log, tells value log →
      Recites host (next value) (fun more => upTo (log ++ more))
        fun last more => tellsNext last (log ++ more)) :
    Recites host (first >>= next) upTo tellsNext := by
  intro session
  rw [Interp.bind_apply]
  obtain ⟨fault, later, breaks, ran⟩ | ⟨value, log, middle, performs, told, ran⟩ := recites session
  · rw [ran]
    exact .inl ⟨fault, later, breaks, rfl⟩
  · rw [ran]
    obtain ⟨fault, later, breaks, same⟩ | ⟨last, more, final, further, toldLast, same⟩ :=
      nextRecites value log told { session with world := middle }
    · exact .inl ⟨fault, later, breaks.after performs, same⟩
    · exact .inr ⟨last, log ++ more, final, performs.append further, toldLast, same⟩

theorem read {selector : String} (reaches : upTo [] selector) :
    Recites host (Interp.act (host.page.texts selector)) upTo fun texts log =>
      log = [.read selector texts] := by
  intro session
  rw [Interp.act_apply]
  rcases told : host.page.texts selector session.world with ⟨fault | texts, later⟩
  · exact .inl ⟨fault, later, ⟨[], session.world, selector, reaches, .done, told⟩, rfl⟩
  · exact .inr ⟨texts, [.read selector texts], later, .read told .done, rfl, rfl⟩

theorem pause (rests : host.clock.Rests)
    (inRange : ∃ seconds, (Span.ofMs host.settings.extractRetryDelayMs).toSeconds = .ok seconds) :
    Recites host (Interp.act (host.clock.pause (.ofMs host.settings.extractRetryDelayMs))) upTo
      fun _ log => log = [.paused] := by
  intro session
  obtain ⟨seconds, inRange⟩ := inRange
  obtain ⟨later, paused⟩ := rests _ session.world seconds inRange
  rw [Interp.act_apply, paused]
  exact .inr ⟨(), [.paused], later, .paused paused .done, rfl, rfl⟩

/-!
## Groups and attempts
-/

theorem readGroup (group : List String) :
    Recites host (Interp.readGroup host group)
      (fun log selector => ∃ read unread answers, group = read ++ selector :: unread ∧
        answers.length = read.length ∧ log = readsOf read answers)
      fun texts log => ∃ answers,
        answers.length = group.length ∧ texts = answers.flatten ∧ log = readsOf group answers := by
  induction group with
  | nil => exact .pure ⟨[], rfl, rfl, rfl⟩
  | cons selector rest ih =>
      refine .bind (.read ⟨[], rest, [], rfl, rfl, rfl⟩) fun texts first same => ?_
      subst same
      refine .bind (ih.mono ?_ fun _ _ told => told) fun others log told => .pure ?_
      · rintro log following ⟨read, unread, answers, rfl, length, rfl⟩
        exact ⟨selector :: read, unread, texts :: answers, rfl, congrArg (· + 1) length, rfl⟩
      · obtain ⟨answers, length, rfl, rfl⟩ := told
        exact ⟨texts :: answers, congrArg (· + 1) length, rfl, by rw [List.append_nil]; rfl⟩

theorem readGroups (groups : List (List String)) :
    Recites host (Interp.readGroups host groups) (Attempt.UpTo groups) fun text log => ∃ found,
      Attempt groups log found ∧ text = found.getD "" ∧ found ≠ some "" := by
  induction groups with
  | nil => exact .pure ⟨none, .exhausted, rfl, nofun⟩
  | cons group rest ih =>
      refine .bind ((readGroup group).mono ?_ fun _ _ told => told) fun texts log told => ?_
      · rintro log selector ⟨read, unread, answers, rfl, length, rfl⟩
        exact .here length
      obtain ⟨answers, length, rfl, rfl⟩ := told
      by_cases some : ∃ text ∈ answers.flatten, Text.isBlankText text = false
      · have content := joinTexts_ne_empty some
        rw [if_neg content]
        refine .pure ⟨_, ?_, rfl, fun same => content (Option.some.inj same)⟩
        rw [List.append_nil]
        exact .found length some
      · have blank : ∀ text ∈ answers.flatten, Text.isBlankText text = true := by
          intro text found
          by_contra named
          exact some ⟨text, found, Bool.eq_false_iff.mpr named⟩
        rw [joinTexts_blank blank, if_pos rfl]
        refine ih.mono (fun _ _ upTo => .later length blank upTo) fun text more told => ?_
        obtain ⟨found, attempt, same, filled⟩ := told
        exact ⟨found, .blank length blank attempt, same, filled⟩

theorem readPatiently (rests : host.clock.Rests)
    (inRange : ∃ seconds, (Span.ofMs host.settings.extractRetryDelayMs).toSeconds = .ok seconds)
    (groups : List (List String)) (tries : Nat) :
    Recites host (Interp.readPatiently host groups tries) (Attempts.UpTo groups tries)
      fun text log => ∃ attempts found,
        Attempts groups tries attempts found ∧ log = logOf attempts ∧ text = found.getD "" ∧
          found ≠ some "" := by
  induction tries with
  | zero => exact .pure ⟨[], none, .none groups, rfl, rfl, nofun⟩
  | succ tries ih =>
      refine .bind ((readGroups groups).mono (fun _ _ upTo => .first upTo tries)
        fun _ _ told => told) fun text first told => ?_
      obtain ⟨found, attempt, rfl, filled⟩ := told
      cases found with
      | some text =>
          have content : text ≠ "" := fun same => filled (congrArg some same)
          rw [Option.getD_some, decide_eq_false content, Bool.false_and,
            if_neg Bool.false_ne_true]
          refine .pure ⟨[(first, some text)], some text, .one attempt nofun, ?_, rfl, filled⟩
          rw [List.append_nil, logOf_one]
      | none =>
          by_cases last : tries = 0
          · rw [last, decide_eq_false (not_not.mpr rfl), Bool.and_false,
              if_neg Bool.false_ne_true]
            refine .pure ⟨[(first, none)], none, .one attempt fun _ => rfl, ?_, rfl, nofun⟩
            rw [List.append_nil, logOf_one]
          · rw [Option.getD_none, decide_eq_true rfl, decide_eq_true last, Bool.and_self,
              if_pos rfl]
            refine .bind (.pause rests inRange) fun _ pause paused => ?_
            subst paused
            refine ih.mono (fun _ _ upTo => upTo.cons attempt) fun text more told => ?_
            obtain ⟨attempts, found, all, rfl, same, filled⟩ := told
            refine ⟨(first, none) :: attempts, found, .cons attempt all (all.nonempty last), ?_,
              same, filled⟩
            rw [logOf_cons first none (all.nonempty last), List.append_assoc]

/-- What is read for some groups; nothing is done on the page if there are none. -/
theorem readings (rests : host.clock.Rests)
    (inRange : ∃ seconds, (Span.ofMs host.settings.extractRetryDelayMs).toSeconds = .ok seconds)
    (groups : List (List String)) :
    Recites host (if groups.isEmpty then Pure.pure "" else
        Interp.readPatiently host groups host.settings.extractRetries)
      (Attempts.UpTo groups host.settings.extractRetries)
      fun text log => ∃ attempts found,
        Attempts groups (if groups = [] then 0 else host.settings.extractRetries) attempts found ∧
          log = logOf attempts ∧ text = found.getD "" ∧ found ≠ some "" := by
  cases groups with
  | nil => exact .pure ⟨[], none, .none [], rfl, rfl, nofun⟩
  | cons group rest => exact readPatiently rests inRange (group :: rest) _

end Recites

end Extraction

/-- The details that are taken for an item: the text that was found, or what the current item
says by itself. -/
def Run.detailsBy (found : Option String) (run : Run) : String :=
  found.getD ((run.current.map fun current => Text.strip current.text).getD "")

theorem Run.detailsBy_eq_empty {found : Option String} {run : Run} (filled : found ≠ some "") :
    run.detailsBy found = "" ↔
      found = none ∧ ∀ current, run.current = some current → Text.strip current.text = "" := by
  cases found with
  | some text =>
      constructor
      · intro same
        exact absurd (congrArg some same) filled
      · intro nothing
        cases nothing.1
  | none =>
      cases here : run.current with
      | none => simp [detailsBy, here]
      | some current => simp [detailsBy, here]

theorem Run.detailsBy_getD {found : Option String} {run : Run} (filled : found ≠ some "") :
    (if found.getD "" = "" then Text.strip ((run.current.map (·.text)).getD "")
      else found.getD "") = run.detailsBy found := by
  cases found with
  | some text => exact if_neg fun same => filled (congrArg some same)
  | none =>
      cases here : run.current with
      | none => simp only [detailsBy, here]; rfl
      | some current => simp only [detailsBy, here]; rfl

/-- An extraction takes what is read, or what the current item says by itself, unless that is
empty. -/
theorem Interp.extractDetails_apply (host : Host σ) (given : Option (List String))
    (session : Session σ) :
    let groups := session.bindings.detailGroups given
    extractDetails host given session =
      match (if groups.isEmpty then pure "" else
          readPatiently host groups host.settings.extractRetries : Interp σ String) session with
      | (.error fault, after) => (.error fault, after)
      | (.ok text, after) =>
          let content :=
            if text = "" then Text.strip ((after.run.current.map (·.text)).getD "") else text
          if content = "" then
            (.error (.elementNotFound "No content extracted"
              ((groups.flatten.head?).getD session.bindings.listItem)), after)
          else
            (.ok (.extracted content.length),
              { after with run := { after.run with content := some content } }) := by
  intro groups
  unfold extractDetails
  rw [bind_apply, bindings_apply]
  dsimp only
  have finish (text : String) (after : Session σ) : ((do
      let ownText := Text.strip (((← run).current.map (·.text)).getD "")
      let content := if text = "" then ownText else text
      if content = "" then
        throw (.elementNotFound "No content extracted"
          ((groups.flatten.head?).getD session.bindings.listItem))
      update fun run => { run with content := some content }
      return .extracted content.length : Interp σ Report) : Interp σ Report) after =
        (let content :=
            if text = "" then Text.strip ((after.run.current.map (·.text)).getD "") else text
          if content = "" then
            (.error (.elementNotFound "No content extracted"
              ((groups.flatten.head?).getD session.bindings.listItem)), after)
          else
            (.ok (.extracted content.length),
              { after with run := { after.run with content := some content } })) := by
    rw [bind_apply, run_apply]
    dsimp only
    by_cases empty : (if text = "" then Text.strip ((after.run.current.map (·.text)).getD "")
        else text) = ""
    · rw [if_pos empty, if_pos empty]
      rfl
    · rw [if_neg empty, if_neg empty]
      rfl
  split
  · rw [bind_apply]
    exact finish "" session
  · rw [bind_apply]
    rcases readPatiently host groups host.settings.extractRetries session with ⟨fault | text, after⟩
    · rfl
    · exact finish text after

open Extraction in
/-- Where the pause between attempts is in range, an extraction makes attempts with one pause
between any two of them, up to the first one that finds text, or as many as are allowed. What it
takes is that text, or what the current item says by itself, and it fails if and only if there is
neither; nothing else changes in the run. If a read of the page raises a fault on the way, it
fails with that. -/
theorem Command.extractDetails_takes (host : Host σ) (rests : host.clock.Rests)
    (inRange : ∃ seconds, (Span.ofMs host.settings.extractRetryDelayMs).toSeconds = .ok seconds)
    (given : Option (List String)) (session : Session σ) :
    let groups := session.bindings.detailGroups given
    let ran := (Command.extractDetails given).run host session
    (∃ fault later,
      Breaks host (Attempts.UpTo groups host.settings.extractRetries) session.world fault later ∧
      ran = (.ofFault fault, { session.counted with world := later })) ∨
    ∃ attempts found final,
      Performs host session.world (logOf attempts) final ∧
      Attempts groups (if groups = [] then 0 else host.settings.extractRetries) attempts found ∧
      (ran.1.isOk = false ↔ found = none ∧
        ∀ current, session.run.current = some current → Text.strip current.text = "") ∧
      ran =
        if session.run.detailsBy found = "" then
          (.failed "No content extracted" true, { session.counted with world := final })
        else
          (.ok (.extracted (session.run.detailsBy found).length),
            { session.counted with
              run := { session.counted.run with content := some (session.run.detailsBy found) }
              world := final }) := by
  intro groups ran
  have reported : ran = (.ofResult (Interp.extractDetails host given session.counted).1,
      (Interp.extractDetails host given session.counted).2) := by
    show (Command.extractDetails given).run host session = _
    rw [Command.run, report_apply]
  rw [Interp.extractDetails_apply] at reported
  rcases Recites.readings rests inRange groups session.counted with
    ⟨fault, later, breaks, told⟩ |
    ⟨text, log, final, performs, ⟨attempts, found, all, rfl, rfl, filled⟩, told⟩
  · refine .inl ⟨fault, later, breaks, ?_⟩
    rw [reported, show session.counted.bindings.detailGroups given = groups from rfl, told]
    rfl
  · have taken : (if found.getD "" = "" then
          Text.strip ((session.counted.run.current.map (·.text)).getD "")
        else found.getD "") = session.run.detailsBy found := Run.detailsBy_getD filled
    rw [show session.counted.bindings.detailGroups given = groups from rfl, told] at reported
    dsimp only at reported
    rw [taken] at reported
    refine .inr ⟨attempts, found, final, performs, all, ?_, ?_⟩
    · rw [← Run.detailsBy_eq_empty filled, reported]
      by_cases empty : session.run.detailsBy found = ""
      · rw [if_pos empty]
        exact ⟨fun _ => empty, fun _ => rfl⟩
      · rw [if_neg empty]
        constructor
        · intro failed
          cases failed
        · intro same
          exact absurd same empty
    · rw [reported]
      split
      · rfl
      · rfl

/-- A pause of more seconds than a floating number can tell. -/
def RunSettings.endlessRetry : RunSettings :=
  { extractRetryDelayMs := Nat.pow 10 400 }

namespace Rehearsal

theorem clock_rests : clock.Rests := by
  intro ms world seconds told
  show ∃ later, World.pause (.ofMs ms) world = (.ok (), later)
  have length : World.pauseLength (.ofMs ms) = .ok (min (ms * 1000 : Int) 1000000000000000) := by
    unfold World.pauseLength
    rw [told]
    rfl
  unfold World.pause
  rw [length]
  exact ⟨_, rfl⟩

/-- A session at an item that has text of its own, on a page whose details are blank. -/
def blankStart : Session World :=
  let begun := Session.start clock
    { updatedAt := 0, list := "#list", listItem := ".job-card", detailsPanel := some "#details"
      detailsContent := [".summary", ".skills"], itemId := some { source := .data } }
    { stage :=
        { items := [{ id := some "a", text := " Engineer " }]
          visible := 1
          texts := [(".summary", [" ", ""])] } }
  (Command.run { page, clock } (.goToItem .first) begun).2

end Rehearsal

section OnBlankStart

open Extraction Rehearsal

/-- Where the page has nothing but blanks, the item's own text is taken. -/
theorem Command.extractDetails_takes_on_blankStart :
    ∃ attempts found final,
      Performs { page, clock } blankStart.world (logOf attempts) final ∧
      Attempts [[".summary", ".skills"], ["#details"]] 3 attempts found ∧
      ((Command.extractDetails none).run { page, clock } blankStart).2.run.content =
        some (blankStart.run.detailsBy found) ∧
      blankStart.run.detailsBy found = "Engineer" := by
  have content : ((Command.extractDetails none).run { page, clock } blankStart).2.run.content =
      some "Engineer" := by
    decide +kernel
  rcases Command.extractDetails_takes { page, clock } clock_rests ⟨_, rfl⟩ none blankStart with
    ⟨fault, later, breaks, ran⟩ | ⟨attempts, found, final, performs, all, fails, ran⟩
  · rw [ran] at content
    cases content
  · have takes : blankStart.run.detailsBy found = "Engineer" := by
      rw [ran] at content
      split at content
      · cases content
      · exact Option.some.inj content
    exact ⟨attempts, found, final, performs, all, by rw [takes, content], takes⟩

/-- With a pause that is out of range the extraction fails after the first attempt, although the
page can be read and the item has text. -/
theorem Command.extractDetails_fails_on_endlessRetry :
    (blankStart.run.current.map fun current => Text.strip current.text) = some "Engineer" ∧
      (Interp.readGroups { page, clock, settings := .endlessRetry }
        (blankStart.bindings.detailGroups none) blankStart).1.toOption = some "" ∧
      ((Command.extractDetails none).run { page, clock, settings := .endlessRetry }
        blankStart).1 = .failed "integer division result too large for a float" false := by
  refine ⟨?_, ?_, ?_⟩
  · decide +kernel
  · decide +kernel
  · decide +kernel

end OnBlankStart

end Gleaner
