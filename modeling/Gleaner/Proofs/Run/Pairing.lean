import Gleaner.Proofs.Run.Details
import Gleaner.Proofs.Run.Saved
import Mathlib.Data.List.Chain

/-!
# Items and their details

A save pairs the current item with the details at hand. Making an item current forgets the
details of the one before, and only an extraction brings details, so what is saved under an id
was extracted after the latest change of the current item, and that change made an item with
this id current. The chronicle of a run tells both.
-/

set_option autoImplicit false

namespace Gleaner

variable {σ : Type}

namespace Moment

def current (moment : Moment σ) : Option CurrentItem :=
  moment.session.run.current

def content (moment : Moment σ) : Option String :=
  moment.session.run.content

/-- From one moment to the next an item became current: another one, or the same one anew,
which forgets its details. -/
def Enters (earlier later : Moment σ) : Prop :=
  later.current ≠ earlier.current ∨ earlier.content ≠ none ∧ later.content = none

theorem not_enters_of_current {earlier later : Moment σ}
    (current : later.current = earlier.current)
    (content : later.content = earlier.content ∨ later.content ≠ none) :
    ¬earlier.Enters later := by
  rintro (other | ⟨some, nothing⟩)
  · exact other current
  · rcases content with same | kept
    · exact some (same ▸ nothing)
    · exact kept nothing

end Moment

/-- The latest change of the current item in some moments: it made `current` current, and the
moments `since` then are those without another change. -/
def LastEntered (moments : List (Moment σ)) (current : CurrentItem)
    (since : List (Moment σ)) : Prop :=
  ∃ before prior entering, moments = before ++ prior :: entering :: since ∧
    prior.Enters entering ∧ entering.current = some current ∧
    (entering :: since).IsChain fun earlier later => ¬earlier.Enters later

/-- One of the moments starts an extraction that succeeds with the content, and no moment
after it has another one. -/
def Extracted (host : Host σ) (moments : List (Moment σ)) (content : String) : Prop :=
  ∃ before extracting after given report, moments = before ++ extracting :: after ∧
    extracting.starting = some (.extractDetails given) ∧
    ((Command.extractDetails given).run host extracting.session).1 = .ok report ∧
    ((Command.extractDetails given).run host extracting.session).2.run.content = some content ∧
    ∀ moment ∈ after, moment.content = some content

theorem LastEntered.append {past since : List (Moment σ)} {last next : Moment σ}
    {current : CurrentItem} (entered : LastEntered (past ++ [last]) current since)
    (stays : ¬last.Enters next) :
    LastEntered (past ++ [last] ++ [next]) current (since ++ [next]) := by
  obtain ⟨before, prior, entering, split, enters, became, chain⟩ := entered
  refine ⟨before, prior, entering, ?_, enters, became, ?_⟩
  · rw [split, List.append_assoc]
    rfl
  · have ending : (entering :: since).getLast? = some last := by
      have ends := congrArg List.getLast? split
      rw [List.getLast?_append, List.getLast?_append, List.getLast?_cons_cons] at ends
      simpa using ends.symm
    refine List.IsChain.append chain (List.isChain_singleton next) ?_
    intro earlier isLast later isNext
    rw [ending] at isLast
    cases isLast
    cases isNext
    exact stays

theorem Extracted.append {host : Host σ} {moments : List (Moment σ)} {content : String}
    (extracted : Extracted host moments content) {next : Moment σ}
    (keeps : next.content = some content) : Extracted host (moments ++ [next]) content := by
  obtain ⟨before, extracting, after, given, report, split, starts, succeeds, brings, kept⟩ :=
    extracted
  refine ⟨before, extracting, after ++ [next], given, report, ?_, starts, succeeds, brings, ?_⟩
  · rw [split, List.append_assoc]
    rfl
  · intro moment found
    rcases List.mem_append.mp found with earlier | isNext
    · exact kept moment earlier
    · rw [List.mem_singleton.mp isNext]
      exact keeps

theorem Extracted.trimmed {host : Host σ} {moments : List (Moment σ)} {content : String}
    (extracted : Extracted host moments content) :
    content ≠ "" ∧ Text.strip content = content := by
  obtain ⟨_, extracting, _, given, report, _, _, succeeds, brings, _⟩ := extracted
  rw [Command.run, report_apply] at succeeds brings
  rcases ran : Interp.extractDetails host given extracting.session.counted with
    ⟨fault | answer, after⟩
  · obtain ⟨error, repairable, failed⟩ := Outcome.ofFault_failed fault
    rw [ran, Outcome.ofResult_error, failed] at succeeds
    cases succeeds
  · obtain ⟨text, has, named, trimmed⟩ := Interp.extractDetails_trimmed host given _ answer after ran
    rw [ran] at brings
    cases has.symm.trans brings
    exact ⟨named, trimmed⟩

/-!
## One moment more
-/

/-- Whatever is current was entered, and the details at hand were extracted since. -/
def Tended (host : Host σ) (past : List (Moment σ)) (last : Moment σ) : Prop :=
  ∀ current, last.current = some current →
    ∃ since, LastEntered (past ++ [last]) current since ∧
      ∀ content, last.content = some content → Extracted host since content

namespace Tended

variable {host : Host σ} {past : List (Moment σ)} {last next : Moment σ}

theorem of_none (nothing : last.current = none) : Tended host past last := by
  intro current isCurrent
  rw [nothing] at isCurrent
  cases isCurrent

theorem keeps (tended : Tended host past last) (current : next.current = last.current)
    (content : next.content = last.content) : Tended host (past ++ [last]) next := by
  intro item isCurrent
  obtain ⟨since, entered, extracted⟩ := tended item (current ▸ isCurrent)
  refine ⟨since ++ [next], entered.append ?_, ?_⟩
  · exact Moment.not_enters_of_current current (.inl content)
  · intro text has
    exact (extracted text (content ▸ has)).append has

theorem enters (tended : Tended host past last) {item : CurrentItem}
    (current : next.current = some item) (content : next.content = none) :
    Tended host (past ++ [last]) next := by
  intro found isCurrent
  cases current.symm.trans isCurrent
  have nothing : ∀ text, next.content = some text → ∀ since, Extracted host since text := by
    intro text has
    rw [content] at has
    cases has
  by_cases changes : last.Enters next
  · refine ⟨[], ⟨past, last, next, by simp, changes, current, List.isChain_singleton next⟩, ?_⟩
    exact fun text has => nothing text has _
  · -- The same item was entered again before anything was extracted: nothing has changed.
    have same : last.current = some item := by
      by_contra other
      exact changes (.inl fun equal => other (equal ▸ current))
    obtain ⟨since, entered, _⟩ := tended item same
    exact ⟨since ++ [next], entered.append changes, fun text has => nothing text has _⟩

/-- An extraction starts at a moment of its own, which is after the latest change. -/
theorem extracts (tended : Tended host past last) {given : Option (List String)}
    {report : Report}
    (succeeds : ((Command.extractDetails given).run host last.session).1 = .ok report)
    (current : ((Command.extractDetails given).run host last.session).2.run.current = last.current)
    (content : ((Command.extractDetails given).run host last.session).2.run.content ≠ none) :
    Tended host
      (past ++ [last] ++ [{ last with starting := some (.extractDetails given) }])
      { session := ((Command.extractDetails given).run host last.session).2 } := by
  intro item isCurrent
  obtain ⟨since, entered, _⟩ := tended item (current.symm.trans isCurrent)
  refine ⟨since ++ [_] ++ [_], (entered.append ?_).append ?_, ?_⟩
  · exact Moment.not_enters_of_current rfl (.inl rfl)
  · exact Moment.not_enters_of_current current (.inr content)
  · intro found has
    refine ⟨since, _, [_], given, report, List.append_assoc _ _ _, rfl, succeeds, has, ?_⟩
    intro moment isNext
    rw [List.mem_singleton.mp isNext]
    exact has

end Tended

/-!
## Commands and what happens between them
-/

/-- A run enters an item, or it keeps the item and its details. -/
def Run.EntersOrKeeps (before after : Run) : Prop :=
  (∃ item, after.current = some item ∧ after.content = none) ∨
    after.current = before.current ∧ after.content = before.content

theorem Move.entersOrKeeps {host : Host σ} {session next : Session σ}
    (move : Move host session next) : session.run.EntersOrKeeps next.run := by
  cases move with
  | timeChecked =>
      rcases session.checkTime_cases with ⟨-, same⟩ | ⟨-, same⟩
      all_goals
        rw [same]
        exact .inr ⟨rfl, rfl⟩
  | itemEntered item => exact .inl ⟨item, rfl, rfl⟩
  | repaired changes going accepted =>
      obtain ⟨bindings, rfl⟩ := Session.patch_bindings accepted
      exact .inr ⟨rfl, rfl⟩
  | _ => exact .inr ⟨rfl, rfl⟩

/-- Only an extraction brings details. -/
theorem Deed.entersOrKeeps {most : Option Nat} {command : Command} {outcome : Outcome}
    {before after : Run} (deed : Deed most command outcome before after) :
    before.EntersOrKeeps after ∨
      ∃ given report text, command = .extractDetails given ∧ outcome = .ok report ∧
        after.current = before.current ∧ after.content = some text := by
  cases deed with
  | entered item other => exact .inl (.inl ⟨item, rfl, rfl⟩)
  | extracted text named => exact .inr ⟨_, _, text, rfl, rfl, rfl, rfl⟩
  | marked current found =>
      obtain ⟨_, _, marked⟩ := before.markProcessed_ledger current.id
      rw [marked]
      exact .inl (.inr ⟨rfl, rfl⟩)
  | _ => exact .inl (.inr ⟨rfl, rfl⟩)

theorem Tended.next {host : Host σ} {past : List (Moment σ)} {last next : Moment σ}
    (tended : Tended host past last)
    (changes : last.session.run.EntersOrKeeps next.session.run) :
    Tended host (past ++ [last]) next := by
  rcases changes with ⟨item, current, content⟩ | ⟨current, content⟩
  · exact tended.enters current content
  · exact tended.keeps current content

/-- The moment at which a plain command starts and the one after it. -/
theorem Tended.ran {host : Host σ} {past : List (Moment σ)} {last : Moment σ}
    (tended : Tended host past last) {command : Command} (plain : command.isPlain = true) :
    Tended host (past ++ [last] ++ [{ last with starting := some command }])
      { session := (command.run host last.session).2 } := by
  obtain ⟨run, world, reached, deed⟩ := command.run_deed host plain last.session
  rcases deed.entersOrKeeps with changes | ⟨given, report, text, rfl, succeeds, current, content⟩
  · refine Tended.next (tended.keeps rfl rfl) ?_
    rw [reached]
    exact changes
  · refine tended.extracts succeeds ?_ ?_
    · rw [reached]
      exact current
    · rw [reached, content]
      exact Option.some_ne_none text

theorem forall_prefix_cons {α : Type} {holds : List α → α → Prop} {first : α} {rest : List α}
    (here : holds [] first)
    (further : ∀ earlier next, earlier ++ [next] <+: rest → holds (first :: earlier) next) :
    ∀ earlier next, earlier ++ [next] <+: first :: rest → holds earlier next := by
  intro earlier next isPrefix
  cases earlier with
  | nil =>
      cases (List.cons_prefix_cons.mp isPrefix).1
      exact here
  | cons head tail =>
      obtain ⟨rfl, tailPrefix⟩ := List.cons_prefix_cons.mp isPrefix
      exact further tail next tailPrefix

/-- On a journey every moment is tended by the ones before it. -/
theorem Journey.tended {host : Host σ} {session final : Session σ} {news : List (Moment σ)}
    (journey : Journey host session news final) {past : List (Moment σ)}
    (tended : Tended host past ⟨session, none⟩) :
    ∀ earlier next, earlier ++ [next] <+: news →
      Tended host (past ++ ⟨session, none⟩ :: earlier) next := by
  -- Each moment is the last one for those that follow, so the past grows along the journey.
  induction journey generalizing past with
  | done =>
      intro earlier next isPrefix
      cases earlier <;> cases List.prefix_nil.mp isPrefix
  | @moved session after _ _ move _ ih =>
      have next : Tended host (past ++ [⟨session, none⟩]) ⟨after, none⟩ :=
        tended.next move.entersOrKeeps
      refine forall_prefix_cons next fun earlier later isPrefix => ?_
      simpa using ih next earlier later isPrefix
  | @ran session _ _ command plain _ _ ih =>
      have starting : Tended host (past ++ [⟨session, none⟩]) ⟨session, some command⟩ :=
        tended.keeps rfl rfl
      have next := tended.ran plain
      refine forall_prefix_cons starting (forall_prefix_cons ?_ fun earlier later isPrefix => ?_)
      · simpa using next
      · simpa using ih next earlier later isPrefix
  | @opened session _ _ command _ _ _ ih =>
      have starting : Tended host (past ++ [⟨session, none⟩]) ⟨session, some command⟩ :=
        tended.keeps rfl rfl
      have next : Tended host (past ++ [⟨session, none⟩] ++ [⟨session, some command⟩])
          ⟨{ session with run := session.run.countCommand }, none⟩ := starting.keeps rfl rfl
      refine forall_prefix_cons starting (forall_prefix_cons ?_ fun earlier later isPrefix => ?_)
      · simpa using next
      · simpa using ih next earlier later isPrefix

/-!
## Runs of recipes
-/

theorem Session.savable?_eq_some {clock : Clock σ} {label : String} {session : Session σ}
    {item : Item} (savable : session.savable? clock label = some item) :
    ∃ current, session.run.current = some current ∧ item.id = current.id ∧
      session.run.content = some item.content := by
  unfold savable? at savable
  cases current : session.run.current with
  | none =>
      rw [current] at savable
      cases savable
  | some found =>
      cases content : session.run.content with
      | none =>
          rw [current, content] at savable
          cases savable
      | some text =>
          simp only [current, content] at savable
          by_cases empty : text = ""
          · simp [empty] at savable
          · simp [empty] at savable
            subst savable
            exact ⟨found, rfl, rfl, rfl⟩

theorem Moment.saves?_eq_some {clock : Clock σ} {moment : Moment σ} {item : Item}
    (saves : moment.saves? clock = some item) :
    ∃ current, moment.current = some current ∧ item.id = current.id ∧
      moment.content = some item.content := by
  unfold saves? at saves
  split at saves
  · exact Session.savable?_eq_some saves
  · cases saves

/-- What a run has collected is what the saves of its chronicle tell, whether it has a result
or not. Each of them pairs the id of the item that the latest change made current with what an
extraction after that change brought, which says something and is trimmed. -/
theorem Session.execute_pairs (host : Host σ) (recipe : Recipe) (session : Session σ) :
    ∃ result final moments,
      Telling.execute host recipe (session, []) = (result, final, moments) ∧
      execute host recipe session = (result, final) ∧
      final.run.collected = moments.filterMap (·.saves? host.clock) ∧
      (∀ report, result = .ok report → report.items = final.run.collected) ∧
      ∀ past saving rest item, moments = past ++ saving :: rest →
        saving.saves? host.clock = some item →
        ∃ current since,
          LastEntered (past ++ [saving]) current since ∧ current.id = item.id ∧
          Extracted host since item.content ∧
          item.content ≠ "" ∧ Text.strip item.content = item.content := by
  obtain ⟨news, told, journey⟩ := @Tells.execute _ host recipe session
  have fresh := (begin_fresh host session recipe.limits).1
  refine ⟨_, _, _, told, rfl, ?_, ?_, ?_⟩
  · rw [journey.collected, fresh]
    rfl
  · intro report ended
    exact (execute_result host recipe session ended).1
  · intro past saving rest item split saves
    obtain ⟨current, isCurrent, same, content⟩ := Moment.saves?_eq_some saves
    have begun : Tended host [] { session := (begin host recipe.limits session).2 } :=
      .of_none (by rw [Moment.current, fresh])
    have tended : Tended host past saving := by
      have isPrefix : past ++ [saving] <+:
          { session := (begin host recipe.limits session).2 } :: news := by
        rw [split]
        exact ⟨rest, by simp⟩
      refine forall_prefix_cons begun ?_ past saving isPrefix
      exact fun earlier next => journey.tended begun earlier next
    obtain ⟨since, entered, extracted⟩ := tended current isCurrent
    have found := extracted item.content content
    exact ⟨current, since, entered, same.symm, found, found.trimmed⟩

end Gleaner
