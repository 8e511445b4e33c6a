import Gleaner.Proofs.Run.Skipping

/-!
# Leaving an item

What an iteration does for one item after another. A command to continue ends what is done for
its item: of a body and of the branches in it no further command starts, and the iteration goes
on with the next item listed. A repetition in the body is the exception. It asks only whether
the run is stopped, so that the commands of its own body start on and on after a command to
continue in it; nothing else does.
-/

set_option autoImplicit false

namespace Gleaner

variable {σ α : Type}

mutual

/-- No command to continue stands in a repetition that is a part of the command. -/
def Command.leavesAtOnce : Command → Bool
  | .choose _ thenBranch elseBranch =>
      Command.allLeaveAtOnce thenBranch && Command.allLeaveAtOnce elseBranch
  | .repeatUntil body _ => !Command.anyContinues body
  | _ => true

def Command.allLeaveAtOnce : List Command → Bool
  | [] => true
  | first :: rest => first.leavesAtOnce && Command.allLeaveAtOnce rest

end

theorem Command.leavesAtOnce_of_mem {command : Command} {list : List Command}
    (listed : command ∈ list) (all : Command.allLeaveAtOnce list = true) :
    command.leavesAtOnce = true := by
  induction list with
  | nil => exact absurd listed List.not_mem_nil
  | cons first rest ih =>
      obtain ⟨here, later⟩ := (Bool.and_eq_true _ _).mp all
      rcases List.mem_cons.mp listed with rfl | listed
      · exact here
      · exact ih listed later

def Stretch.leavesAtOnce : Stretch → Bool
  | .one command => command.leavesAtOnce
  | .any true list => Command.allLeaveAtOnce list
  | .any false list => !Command.anyContinues list

theorem Command.Opens.leavesAtOnce {command : Command} {heeding : Bool} {list : List Command}
    (opens : command.Opens heeding list) (atOnce : command.leavesAtOnce = true) :
    (Stretch.any heeding list).leavesAtOnce = true := by
  cases opens with
  | thenBranch => exact ((Bool.and_eq_true _ _).mp atOnce).1
  | elseBranch => exact ((Bool.and_eq_true _ _).mp atOnce).2
  | body => exact atOnce

/-- A command to continue has started. -/
def Continued (chapters : List (Chapter σ)) : Prop :=
  ∃ leaving ∈ chapters, leaving.starting = some .continueItem

/-- After a command to continue nothing starts, and the rest is skipped at the end. -/
structure Quits (chapters : List (Chapter σ)) (final : Session σ) : Prop where
  silent : Throughout (fun before chapter => Continued before → chapter.starting = none) chapters
  skips : Continued chapters → final.run.skipping = true

namespace Quits

variable {chapter : Chapter σ} {first rest chapters : List (Chapter σ)} {middle final : Session σ}

theorem of_never (never : ∀ chapter ∈ chapters, chapter.starting ≠ some .continueItem) :
    Quits chapters final where
  silent := fun _ _ _ split ⟨leaving, found, starts⟩ =>
    absurd starts (never leaving (split ▸ List.mem_append_left _ found))
  skips := fun ⟨leaving, found, starts⟩ => absurd starts (never leaving found)

theorem append (begun : Quits first middle) (later : Quits rest final)
    (still : Continued first → (∀ chapter ∈ rest, chapter.starting = none) ∧
      final.run.skipping = true) : Quits (first ++ rest) final where
  silent := by
    refine begun.silent.append fun before chapter after split ⟨leaving, found, starts⟩ => ?_
    rcases List.mem_append.mp found with found | found
    · exact (still ⟨leaving, found, starts⟩).1 chapter
        (split ▸ List.mem_append_right before List.mem_cons_self)
    · exact later.silent before chapter after split ⟨leaving, found, starts⟩
  skips := fun ⟨leaving, found, starts⟩ => by
    rcases List.mem_append.mp found with found | found
    · exact (still ⟨leaving, found, starts⟩).2
    · exact later.skips ⟨leaving, found, starts⟩

/-- Chapters that start no command to continue may stand before others. -/
theorem behind (never : ∀ chapter ∈ first, chapter.starting ≠ some .continueItem)
    (quits : Quits rest final) : Quits (first ++ rest) final := by
  have begun : Quits first final := of_never never
  exact begun.append quits fun ⟨leaving, found, starts⟩ => absurd starts (never leaving found)

end Quits

namespace Account

variable {host : Host σ} {stretch : Stretch} {session final : Session σ}
  {chapters : List (Chapter σ)}

/-- While the rest is skipped nothing starts in a branch, and the skip stays. -/
theorem skipped {list : List Command}
    (account : Account host (.any true list) session chapters final)
    (skip : session.run.skipping = true) :
    (∀ chapter ∈ chapters, chapter.starting = none) ∧ final.run.skipping = true := by
  generalize same : Stretch.any true list = stretch at account
  induction account with
  | done => exact ⟨List.forall_mem_nil _, skip⟩
  | passed still _ ih =>
      obtain ⟨nothing, last⟩ := ih (still.trans skip) same
      exact ⟨List.forall_mem_cons.mpr ⟨rfl, nothing⟩, last⟩
  | ran command listed heeded _ _ _ _ =>
      cases same
      exact absurd ((heeded rfl).symm.trans skip) Bool.false_ne_true
  | _ => cases same

/-- No command starts after one to continue where no repetition has such a command in its body. -/
theorem quits (account : Account host stretch session chapters final)
    (atOnce : stretch.leavesAtOnce = true) : Quits chapters final := by
  induction account with
  | done => exact .of_never (List.forall_mem_nil _)
  | @passed _ _ _ next _ rest still _ ih =>
      have quiet : ∀ chapter ∈ [Chapter.moment { session := next }],
          chapter.starting ≠ some .continueItem := List.forall_mem_singleton.mpr nofun
      exact .behind quiet (ih atOnce)
  | @ran heeding list _ _ _ _ _ command listed heeded one others oneQuits othersQuit =>
      cases heeding with
      | false =>
          have never : Stretch.continues (.any false list) = false :=
            (Bool.not_eq_true' _).mp atOnce
          exact .of_never ((Account.ran command listed heeded one others).no_continue never)
      | true =>
          have begun := oneQuits (Command.leavesAtOnce_of_mem listed atOnce)
          exact begun.append (othersQuit atOnce) fun continued =>
            others.skipped (begun.skips continued)
  | @plain session command plain =>
      refine ⟨.cons (fun ⟨_, found, _⟩ => absurd found List.not_mem_nil)
        (.cons (fun _ => rfl) .nil), fun ⟨leaving, found, starts⟩ => ?_⟩
      rcases List.mem_cons.mp found with rfl | found
      · cases starts
        rfl
      · cases List.mem_singleton.mp found
        cases starts
  | iterated => exact .of_never (List.forall_mem_singleton.mpr nofun)
  | @opened session _ _ command _ _ opens _ _ ih =>
      have other : (Chapter.moment { session, starting := some command }).starting ≠
          some .continueItem := by
        cases opens <;> exact nofun
      have opening : ∀ chapter ∈ [Chapter.moment { session, starting := some command },
          .moment { session := session.counted }], chapter.starting ≠ some .continueItem :=
        List.forall_mem_cons.mpr ⟨other, List.forall_mem_singleton.mpr nofun⟩
      exact .behind opening (ih (opens.leavesAtOnce atOnce))

end Account

/-!
## Where a skip is not heeded
-/

/-- A command to continue has started, and no iteration after it. -/
def Left (chapters : List (Chapter σ)) : Prop :=
  ∃ before leaving between, chapters = before ++ leaving :: between ∧
    leaving.starting = some .continueItem ∧ ∀ chapter ∈ between, chapter.isIteration = false

/-- A repetition with the command in its body has started. -/
def Repeats (chapters : List (Chapter σ)) (command : Command) : Prop :=
  ∃ opened ∈ chapters, ∃ body goal,
    opened.starting = some (.repeatUntil body goal) ∧ command ∈ body

/-- Commands may start in a part of a run while the rest is skipped only from the body of a
repetition that has started. -/
def Stretch.Repeating (past : List (Chapter σ)) (session : Session σ) : Stretch → Prop
  | .one command => session.run.skipping = true → Repeats past command
  | .any heeding list => heeding = false → ∀ command ∈ list, Repeats past command

theorem Left.of_concat {past : List (Chapter σ)} {last : Chapter σ} (left : Left (past ++ [last])) :
    last.starting = some .continueItem ∨ last.isIteration = false ∧ Left past := by
  obtain ⟨before, leaving, between, split, starts, quiet⟩ := left
  rcases List.eq_nil_or_concat between with rfl | ⟨between, other, rfl⟩
  · obtain ⟨_, same⟩ := List.append_inj' split rfl
    cases same
    exact .inl starts
  · have split : past ++ [last] = (before ++ leaving :: between) ++ [other] := by simpa using split
    obtain ⟨rfl, same⟩ := List.append_inj' split rfl
    cases same
    rw [List.concat_eq_append] at quiet
    obtain ⟨quiet, moment⟩ := List.forall_mem_append.mp quiet
    exact .inr ⟨moment last List.mem_cons_self, before, leaving, between, rfl, starts, quiet⟩

theorem Command.Opens.repeating {command : Command} {heeding : Bool} {list : List Command}
    (opens : command.Opens heeding list) (past : List (Chapter σ)) (session : Session σ) :
    (Stretch.any heeding list).Repeating
      (past ++ [.moment { session, starting := some command },
        .moment { session := session.counted }]) session.counted := by
  cases opens with
  | thenBranch => exact nofun
  | elseBranch => exact nofun
  | body =>
      intro _ inner listed
      exact ⟨_, List.mem_append_right past List.mem_cons_self, list, _, rfl, listed⟩

theorem Repeats.append {past : List (Chapter σ)} {command : Command}
    (repeats : Repeats past command) (news : List (Chapter σ)) : Repeats (past ++ news) command := by
  obtain ⟨opened, found, within⟩ := repeats
  exact ⟨opened, List.mem_append_left news found, within⟩

namespace Account

variable {host : Host σ} {stretch : Stretch} {session final : Session σ}
  {chapters : List (Chapter σ)}

/-- After a command to continue the rest is skipped until an iteration starts. -/
theorem left (account : Account host stretch session chapters final) :
    Throughout (fun before chapter => Left before → chapter.session.run.skipping = true)
      chapters := by
  have nothing : ¬Left ([] : List (Chapter σ)) := by
    rintro ⟨before, leaving, between, split, _⟩
    exact List.append_ne_nil_of_right_ne_nil before (List.cons_ne_nil leaving between) split.symm
  exact (account.tracks (fun past skipping => Left past → skipping = true)
    (fun _ _ _ other relates left => relates (left.of_concat.resolve_left other).2)
    (fun _ _ _ => rfl)
    (fun _ _ _ _ _ _ left => left.of_concat.elim nofun nofun)
    [] (fun left => absurd left nothing)).1

/-- While the rest is skipped, what starts is in the body of a repetition. -/
theorem repeating (account : Account host stretch session chapters final) (past : List (Chapter σ))
    (here : stretch.Repeating past session) :
    Throughout (fun before chapter => ∀ command, chapter.starting = some command →
      chapter.session.run.skipping = true → Repeats (past ++ before) command) chapters := by
  induction account generalizing past with
  | done => exact .nil
  | passed _ _ ih =>
      refine .cons nofun ?_
      simpa using ih (past ++ [.moment _]) fun heedless command listed =>
        (here heedless command listed).append _
  | @ran heeding _ _ _ _ _ _ command listed heeded _ _ one others =>
      refine .append (one past fun skip => ?_) ?_
      · cases heeding with
        | false => exact here rfl command listed
        | true => exact absurd ((heeded rfl).symm.trans skip) Bool.false_ne_true
      · simpa using others (past ++ _) fun heedless command listed =>
          (here heedless command listed).append _
  | @plain session command plain =>
      refine .cons ?_ (.cons nofun .nil)
      intro other starts skip
      cases starts
      simpa using here skip
  | iterated body skipProcessed _ =>
      refine .cons ?_ .nil
      intro other starts skip
      cases starts
      simpa using here skip
  | @opened session _ _ command _ _ opens _ _ ih =>
      refine .cons ?_ (.cons nofun ?_)
      · intro other starts skip
        cases starts
        simpa using here skip
      · have inner := ih _ (opens.repeating past session)
        simp only [List.append_assoc, List.cons_append, List.nil_append] at inner
        exact inner

end Account

/-!
## One item after another
-/

theorem Telling.forItems_cons (skipProcessed : Bool) (body : List (Telling σ Outcome))
    (handled skipped : Nat) (item : ListItem) (rest : List ListItem) (session : Session σ)
    (past : List (Moment σ)) :
    let looked : Moment σ := { session := session.checkTime }
    forItems skipProcessed body handled skipped (item :: rest) (session, past) =
      if session.checkTime.run.stopped then
        (.ok (.visited handled skipped), session.checkTime, past ++ [looked])
      else
        match session.checkTime.bindings.toCurrent item with
        | .error fault => (.error fault, session.checkTime, past ++ [looked] ++ [looked])
        | .ok current =>
            if skipProcessed && session.checkTime.run.isProcessed current.id then
              forItems skipProcessed body handled (skipped + 1) rest
                (session.checkTime, past ++ [looked] ++ [looked] ++ [looked])
            else
              forItems skipProcessed body (handled + 1) skipped rest
                (untilFailure body (session.checkTime.atItem current,
                  past ++ [looked] ++ [looked] ++ [looked] ++
                    [{ session := session.checkTime.atItem current }])).2 := by
  intro looked
  rw [forItems, lift_bind]
  show (if session.checkTime.run.stopped then _ else _ : ExceptT Fault (Telling σ) Report)
    (session.checkTime, past ++ [looked]) = _
  split
  · rfl
  · rw [say_bind]
    simp only [Interp.bind_apply, Interp.bindings_apply, Interp.liftExcept_apply]
    cases session.checkTime.bindings.toCurrent item with
    | error fault => rfl
    | ok current =>
        dsimp only
        rw [say_bind]
        show (if skipProcessed && session.checkTime.run.isProcessed current.id then _ else _ :
          ExceptT Fault (Telling σ) Report) (session.checkTime, _) = _
        split <;> rfl

/-- What the body of an iteration does for one item, from where the item is entered. -/
structure Handles (host : Host σ) (body : List Command) (session : Session σ)
    (chapters : List (Chapter σ)) : Prop where
  told : ∃ past, Telling.untilFailure (Telling.commands host body) (session, past) =
    ((untilFailure (Command.steps host body) session).1,
      (untilFailure (Command.steps host body) session).2, past ++ momentsOf chapters)
  genuine : ∀ chapter ∈ chapters, chapter.Genuine host
  /-- Nothing starts after a command to continue, whatever the nesting of choices. -/
  quits : Command.allLeaveAtOnce body = true →
    Throughout (fun before chapter => Continued before → chapter.starting = none) chapters
  /-- After a command to continue the rest is skipped, up to an iteration within the body. -/
  skips : Throughout (fun before chapter => Left before → chapter.session.run.skipping = true)
    chapters
  /-- While the rest is skipped only the commands of repetitions start. -/
  repeats : Throughout (fun before chapter => ∀ command, chapter.starting = some command →
    chapter.session.run.skipping = true → Repeats before command) chapters

theorem Handles.ofBody (host : Host σ) (body : List Command) (session : Session σ)
    (past : List (Moment σ)) :
    ∃ chapters, Telling.untilFailure (Telling.commands host body) (session, past) =
        ((untilFailure (Command.steps host body) session).1,
          (untilFailure (Command.steps host body) session).2, past ++ momentsOf chapters) ∧
      Handles host body session chapters := by
  obtain ⟨chapters, told, account, _⟩ :=
    Recounts.untilFailure (@Recounts.commands _ host body) session past
  refine ⟨chapters, told, ⟨past, told⟩, account.genuine,
    fun atOnce => (account.quits atOnce).silent, account.left, ?_⟩
  exact account.repeating [] nofun

/-- The moments of an iteration over the items that are left, from a session to where it ends:
each item is named, is passed over or handled, and then the next one listed has its turn, unless
the run is over or an item cannot be named. -/
inductive Visits (host : Host σ) (skipProcessed : Bool) (body : List Command) :
    List ListItem → Session σ → List (Moment σ) → Session σ → Prop where
  | done {session : Session σ} : Visits host skipProcessed body [] session [] session
  | halted {item : ListItem} {rest : List ListItem} {session : Session σ} :
      session.checkTime.run.stopped = true →
      Visits host skipProcessed body (item :: rest) session [{ session := session.checkTime }]
        session.checkTime
  | unnamed {item : ListItem} {rest : List ListItem} {session : Session σ} (fault : Fault) :
      session.checkTime.run.stopped = false →
      session.checkTime.bindings.toCurrent item = .error fault →
      Visits host skipProcessed body (item :: rest) session
        [{ session := session.checkTime }, { session := session.checkTime }] session.checkTime
  | passedOver {item : ListItem} {rest : List ListItem} {session final : Session σ}
      {news : List (Moment σ)} (current : CurrentItem) :
      session.checkTime.run.stopped = false →
      session.checkTime.bindings.toCurrent item = .ok current →
      (skipProcessed && session.checkTime.run.isProcessed current.id) = true →
      Visits host skipProcessed body rest session.checkTime news final →
      Visits host skipProcessed body (item :: rest) session
        ({ session := session.checkTime } :: { session := session.checkTime } ::
          { session := session.checkTime } :: news) final
  | handled {item : ListItem} {rest : List ListItem} {session final : Session σ}
      {news : List (Moment σ)} (current : CurrentItem) (chapters : List (Chapter σ)) :
      session.checkTime.run.stopped = false →
      session.checkTime.bindings.toCurrent item = .ok current →
      (skipProcessed && session.checkTime.run.isProcessed current.id) = false →
      Handles host body (session.checkTime.atItem current) chapters →
      Visits host skipProcessed body rest
        (untilFailure (Command.steps host body) (session.checkTime.atItem current)).2 news final →
      Visits host skipProcessed body (item :: rest) session
        ({ session := session.checkTime } :: { session := session.checkTime } ::
          { session := session.checkTime } :: { session := session.checkTime.atItem current } ::
          (momentsOf chapters ++ news)) final

theorem Visits.ofItems (host : Host σ) (skipProcessed : Bool) (body : List Command)
    (items : List ListItem) (handled skipped : Nat) (session : Session σ)
    (past : List (Moment σ)) :
    let steps := Command.steps host body
    ∃ news, Telling.forItems skipProcessed (Telling.commands host body) handled skipped items
        (session, past) =
          ((Interp.forItems skipProcessed steps handled skipped items session).1,
            (Interp.forItems skipProcessed steps handled skipped items session).2, past ++ news) ∧
      Visits host skipProcessed body items session news
        (Interp.forItems skipProcessed steps handled skipped items session).2 := by
  intro steps
  induction items generalizing handled skipped session past with
  | nil => exact ⟨[], by rw [List.append_nil]; rfl, .done⟩
  | cons item rest ih =>
      rw [Telling.forItems_cons, Interp.forItems_cons]
      cases going : session.checkTime.run.stopped with
      | true => exact ⟨_, rfl, .halted going⟩
      | false =>
          cases named : session.checkTime.bindings.toCurrent item with
          | error fault => exact ⟨_, by rw [List.append_assoc]; rfl, .unnamed fault going named⟩
          | ok current =>
              dsimp only
              cases processed : skipProcessed && session.checkTime.run.isProcessed current.id with
              | true =>
                  obtain ⟨news, told, visits⟩ := ih handled (skipped + 1) session.checkTime _
                  refine ⟨_, told.trans ?_, .passedOver current going named processed visits⟩
                  simp only [List.append_assoc, List.cons_append, List.nil_append]
                  rfl
              | false =>
                  obtain ⟨chapters, ran, handles⟩ :=
                    Handles.ofBody host body (session.checkTime.atItem current) _
                  obtain ⟨news, told, visits⟩ := ih (handled + 1) skipped
                    (untilFailure (Command.steps host body) (session.checkTime.atItem current)).2 _
                  refine ⟨_, ?_, .handled current chapters going named processed handles visits⟩
                  simp only [Bool.false_eq_true, ↓reduceIte]
                  rw [ran]
                  refine told.trans ?_
                  simp only [List.append_assoc, List.cons_append, List.nil_append]
                  rfl

/-- The chronicle of an iteration, after its look at the list: nothing when there is none, or
else the visits of its items in their order. -/
def Visited (host : Host σ) (skipProcessed : Bool) (body : List Command)
    (listed : Except Fault (List ListItem) × Session σ) (news : List (Moment σ)) : Prop :=
  match listed with
  | (.error _, _) => news = []
  | (.ok items, session) => ∃ visits closing final, news = visits ++ closing ∧
      Visits host skipProcessed body items session visits final ∧
      ∀ moment ∈ closing, moment.starting = none

theorem Visited.ofBody (host : Host σ) (skipProcessed : Bool) (body : List Command)
    (session : Session σ) (past : List (Moment σ)) :
    ∃ news, Telling.forEachItem host skipProcessed (Telling.commands host body) (session, past) =
        ((Interp.forEachItem host skipProcessed (Command.steps host body) session).1,
          (Interp.forEachItem host skipProcessed (Command.steps host body) session).2,
          past ++ { session := (Interp.listItems host session).2 } :: news) ∧
      Visited host skipProcessed body (Interp.listItems host session) news := by
  rw [Telling.forEachItem, Telling.say_bind, Interp.forEachItem_apply]
  rcases Interp.listItems host session with ⟨fault | items, after⟩
  · exact ⟨[], rfl, rfl⟩
  · cases items with
    | nil => exact ⟨[], rfl, [], [], after, rfl, .done, List.forall_mem_nil _⟩
    | cons item rest =>
        obtain ⟨news, told, visits⟩ := Visits.ofItems host skipProcessed body (item :: rest) 0 0
          after (past ++ [{ session := after }])
        dsimp only
        rw [Telling.bind_apply, told, if_neg (List.cons_ne_nil item rest)]
        rcases ran :
          Interp.forItems skipProcessed (Command.steps host body) 0 0 (item :: rest) after with
          ⟨fault | report, final⟩
        · refine ⟨news, ?_, news, [], final, (List.append_nil news).symm, ?_, List.forall_mem_nil _⟩
          · rw [List.append_assoc]
            rfl
          · rwa [ran] at visits
        · let closed : Moment σ :=
            { session := { final with run := { final.run with skipping := false } } }
          have quiet : ∀ moment ∈ [closed], moment.starting = none :=
            List.forall_mem_singleton.mpr rfl
          refine ⟨news ++ [closed], ?_, news, [closed], final, rfl, ?_, quiet⟩
          · have parts : past ++ { session := after } :: (news ++ [closed]) =
                past ++ [{ session := after }] ++ news ++ [closed] := by simp
            rw [parts]
            rfl
          · rwa [ran] at visits

/-- An iteration from any session lists the items once and visits them in their order. Where no
repetition in its body has a command to continue in it, nothing starts for an item after such a
command; else only the commands of repetitions do. -/
theorem Command.forEachItem_visits (host : Host σ) (body : List Command) (skipProcessed : Bool)
    (session : Session σ) (past : List (Moment σ)) :
    ∃ news, Telling.command host (.forEachItem body skipProcessed) (session, past) =
        (((Command.forEachItem body skipProcessed).run host session).1,
          ((Command.forEachItem body skipProcessed).run host session).2,
          past ++ { session, starting := some (.forEachItem body skipProcessed) } ::
            { session := session.counted } ::
            { session := (Interp.listItems host session.counted).2 } :: news) ∧
      Visited host skipProcessed body (Interp.listItems host session.counted) news := by
  obtain ⟨news, told, visited⟩ := Visited.ofBody host skipProcessed body session.counted
    (past ++ [{ session, starting := some (.forEachItem body skipProcessed) }] ++
      [{ session := session.counted }])
  have mapped :
      (Outcome.ok <$> Telling.forEachItem host skipProcessed (Telling.commands host body) :
        ExceptT Fault (Telling σ) Outcome) =
        Telling.forEachItem host skipProcessed (Telling.commands host body) >>= fun report =>
          pure (.ok report) := rfl
  refine ⟨news, Telling.attempt_of_body ?_, visited⟩
  rw [mapped, Telling.bind_apply, told, Interp.map_apply]
  rcases Interp.forEachItem host skipProcessed (Command.steps host body) session.counted with
    ⟨fault | report, final⟩ <;> rfl

/-!
## A repetition that goes on
-/

namespace Rehearsal

/-- A list with one item. -/
def singleStart : Session World :=
  Session.start clock
    { updatedAt := 0, list := "#list", listItem := ".job-card", itemId := some { source := .data } }
    { stage := { items := [{ id := some "a", text := "a" }], visible := 1 } }

/-- Leaves its item within a repetition that would mark it as done. -/
def lingeringRecipe : Recipe where
  id := "leave"
  commands := [.forEachItem [.repeatUntil [.continueItem, .markDone] (.collected 1)] true]

/-- The item that is left is marked as done all the same. -/
theorem lingeringRecipe_marks_left_item :
    (Session.execute onePassHost lingeringRecipe singleStart).2.run.processed = ["a"] ∧
      (Telling.execute onePassHost lingeringRecipe (singleStart, [])).2.2.filterMap
          (·.starting.map Command.tag) =
        ["FOR_EACH_ITEM_IN_LIST", "REPEAT", "CONTINUE", "MARK_DONE"] := by
  refine ⟨?_, ?_⟩ <;> decide +kernel

end Rehearsal

end Gleaner
