import Gleaner.Proofs.Run.Chapters
import Gleaner.Rehearsal.World

/-!
# A skip and the items

A skip belongs to the body of an iteration, which begins without one for each of its items and
takes it back when the last one is handled. Outside of the items the rest is skipped only after
something that leaves a skip behind: a command to continue that stands in no body of an
iteration, or an iteration that ends before its last item. Where neither has happened, a
choice runs its branch up to a failure or a stop.
-/

set_option autoImplicit false

namespace Gleaner

variable {σ α : Type}

/-!
## Throughout a list
-/

/-- Every entry of a list is as stated of the entries before it and itself. -/
def Throughout (holds : List α → α → Prop) (entries : List α) : Prop :=
  ∀ before entry after, entries = before ++ entry :: after → holds before entry

namespace Throughout

variable {holds : List α → α → Prop} {entry : α} {entries first rest : List α}

theorem nil : Throughout holds [] :=
  fun before entry after split => absurd split.symm (List.append_ne_nil_of_right_ne_nil before
    (List.cons_ne_nil entry after))

theorem cons (here : holds [] entry)
    (later : Throughout (fun before => holds (entry :: before)) rest) :
    Throughout holds (entry :: rest) := by
  rintro (_ | ⟨first, before⟩) found after split
  · cases split
    exact here
  · cases split
    exact later before found after rfl

theorem append (begun : Throughout holds first)
    (later : Throughout (fun before => holds (first ++ before)) rest) :
    Throughout holds (first ++ rest) := by
  induction first generalizing holds with
  | nil => exact later
  | cons entry first ih =>
      refine .cons (begun [] entry first rfl) (ih ?_ later)
      rintro before found after rfl
      exact begun (entry :: before) found after rfl

end Throughout

/-!
## What sets a skip and what ends one
-/

/-- Only the command to continue touches the skip. -/
theorem Deed.skipping {most : Option Nat} {command : Command} {outcome : Outcome}
    {before after : Run} (deed : Deed most command outcome before after)
    (other : command ≠ .continueItem) : after.skipping = before.skipping := by
  cases deed with
  | skipped => exact absurd rfl other
  | marked current found =>
      obtain ⟨_, _, marked⟩ := before.markProcessed_ledger current.id
      rw [marked]
  | _ => rfl

theorem Command.run_skipping (host : Host σ) {command : Command} (plain : command.isPlain = true)
    (other : command ≠ .continueItem) (session : Session σ) :
    (command.run host session).2.run.skipping = session.run.skipping := by
  obtain ⟨run, world, reached, deed⟩ := command.run_deed host plain session
  rw [reached]
  exact deed.skipping other

/-- An iteration that finds no items leaves a skip as it was, and one that handles its items to
the last has none. -/
theorem Command.forEachItem_skipping (host : Host σ) (body : List Command) (skipProcessed : Bool)
    (session : Session σ) :
    ((∀ item rest, (Interp.listItems host session.counted).1 ≠ .ok (item :: rest)) →
        ((Command.forEachItem body skipProcessed).run host session).2.run.skipping =
          session.run.skipping) ∧
      (∀ item rest, (Interp.listItems host session.counted).1 = .ok (item :: rest) →
        ((Command.forEachItem body skipProcessed).run host session).1.isOk = true →
        ((Command.forEachItem body skipProcessed).run host session).2.run.skipping = false) := by
  obtain ⟨world, listed⟩ := Interp.listItems_looks host session.counted
  rw [Command.run, report_apply, Interp.forEachItem_apply]
  rcases found : Interp.listItems host session.counted with ⟨fault | items, after⟩
  · rw [found] at listed
    exact ⟨fun _ => congrArg (·.run.skipping) listed, nofun⟩
  · rw [found] at listed
    cases items with
    | nil =>
        dsimp only
        rw [if_pos rfl]
        exact ⟨fun _ => congrArg (·.run.skipping) listed, nofun⟩
    | cons item rest =>
        dsimp only
        rw [if_neg (List.cons_ne_nil item rest)]
        refine ⟨fun nothing => absurd rfl (nothing item rest), fun _ _ _ => ?_⟩
        rcases Interp.forItems skipProcessed (steps host body) 0 0 (item :: rest) after with
          ⟨fault | report, final⟩
        · obtain ⟨error, repairable, same⟩ := Outcome.ofFault_failed fault
          rw [Outcome.ofResult_error, same]
          exact nofun
        · exact fun _ => rfl

/-- An iteration from a session finds items and fails before it is through with them. -/
def Breaks (host : Host σ) (body : List Command) (skipProcessed : Bool) (session : Session σ) :
    Prop :=
  (∃ item rest, (Interp.listItems host session.counted).1 = .ok (item :: rest)) ∧
    ((Command.forEachItem body skipProcessed).run host session).1.isOk = false

/-- A skip after an iteration was there before it, or the iteration broke. -/
theorem Command.forEachItem_skip {host : Host σ} {body : List Command} {skipProcessed : Bool}
    {session : Session σ}
    (skip : ((Command.forEachItem body skipProcessed).run host session).2.run.skipping = true) :
    session.run.skipping = true ∨ Breaks host body skipProcessed session := by
  obtain ⟨nothing, handled⟩ := forEachItem_skipping host body skipProcessed session
  by_cases items : ∃ item rest, (Interp.listItems host session.counted).1 = .ok (item :: rest)
  · refine .inr ⟨items, Bool.eq_false_iff.mpr fun succeeded => ?_⟩
    obtain ⟨item, rest, found⟩ := items
    rw [handled item rest found succeeded] at skip
    cases skip
  · rw [nothing fun item rest found => items ⟨item, rest, found⟩] at skip
    exact .inl skip

/-!
## What leaves a skip behind
-/

/-- The chapter is a command to continue, outside of the items, or an iteration that breaks. -/
def Chapter.Leaks (host : Host σ) : Chapter σ → Prop
  | .moment noted => noted.starting = some .continueItem
  | .iteration body skipProcessed session _ => Breaks host body skipProcessed session

mutual

/-- A command to continue stands in the command, but in no body of an iteration there. -/
def Command.continues : Command → Bool
  | .continueItem => true
  | .choose _ thenBranch elseBranch =>
      Command.anyContinues thenBranch || Command.anyContinues elseBranch
  | .repeatUntil body _ => Command.anyContinues body
  | _ => false

def Command.anyContinues : List Command → Bool
  | [] => false
  | first :: rest => first.continues || Command.anyContinues rest

end

theorem Command.continues_of_mem {command : Command} {list : List Command} (listed : command ∈ list)
    (none : Command.anyContinues list = false) : command.continues = false := by
  induction list with
  | nil => exact absurd listed List.not_mem_nil
  | cons first rest ih =>
      obtain ⟨here, later⟩ := Bool.or_eq_false_iff.mp none
      rcases List.mem_cons.mp listed with rfl | listed
      · exact here
      · exact ih listed later

def Stretch.continues : Stretch → Bool
  | .one command => command.continues
  | .any _ list => Command.anyContinues list

theorem Command.Opens.continues {command : Command} {heeding : Bool} {list : List Command}
    (opens : command.Opens heeding list) (none : command.continues = false) :
    Command.anyContinues list = false := by
  cases opens with
  | thenBranch => exact (Bool.or_eq_false_iff.mp none).1
  | elseBranch => exact (Bool.or_eq_false_iff.mp none).2
  | body => exact none

namespace Account

variable {host : Host σ} {stretch : Stretch} {session final : Session σ}
  {chapters : List (Chapter σ)}

theorem no_continue (account : Account host stretch session chapters final)
    (none : stretch.continues = false) :
    ∀ chapter ∈ chapters, chapter.starting ≠ some .continueItem := by
  induction account with
  | done => exact List.forall_mem_nil _
  | passed _ _ ih => exact List.forall_mem_cons.mpr ⟨nofun, ih none⟩
  | ran command listed _ _ _ one others =>
      exact List.forall_mem_append.mpr ⟨one (Command.continues_of_mem listed none), others none⟩
  | plain command _ =>
      refine List.forall_mem_cons.mpr ⟨fun starts => ?_, List.forall_mem_singleton.mpr nofun⟩
      cases starts
      cases none
  | iterated => exact List.forall_mem_singleton.mpr nofun
  | @opened session _ _ command _ _ opens _ _ ih =>
      have other : (Chapter.moment { session, starting := some command }).starting ≠
          some .continueItem := by
        cases opens <;> exact nofun
      exact List.forall_mem_cons.mpr
        ⟨other, List.forall_mem_cons.mpr ⟨nofun, ih (opens.continues none)⟩⟩

/-- What is known of the skip from the chapters of the past is known at every chapter and at the
end, when moments keep it, commands to continue bring it about, and iterations pass it on. -/
theorem tracks (relates : List (Chapter σ) → Bool → Prop)
    (noted : ∀ past moment skipping, moment.starting ≠ some .continueItem →
      relates past skipping → relates (past ++ [.moment moment]) skipping)
    (continued : ∀ past session,
      relates (past ++ [.moment { session, starting := some .continueItem }]) true)
    (iterated : ∀ past body skipProcessed session moments, relates past session.run.skipping →
      relates (past ++ [.iteration body skipProcessed session moments])
        ((Command.forEachItem body skipProcessed).run host session).2.run.skipping)
    (account : Account host stretch session chapters final) (past : List (Chapter σ))
    (here : relates past session.run.skipping) :
    Throughout (fun before chapter => relates (past ++ before) chapter.session.run.skipping)
        chapters ∧
      relates (past ++ chapters) final.run.skipping := by
  induction account generalizing past with
  | done => exact ⟨.nil, by rwa [List.append_nil]⟩
  | @passed _ _ session next _ _ still _ ih =>
      rw [← still] at here
      obtain ⟨along, last⟩ := ih _ (noted past { session := next } _ nofun here)
      exact ⟨.cons (by rwa [List.append_nil]) (by simpa using along), by simpa using last⟩
  | ran command _ _ _ _ one others =>
      obtain ⟨first, middle⟩ := one past here
      obtain ⟨rest, last⟩ := others _ middle
      exact ⟨.append first (by simpa using rest), by simpa using last⟩
  | @plain session command plain =>
      have started : relates (past ++ [.moment { session, starting := some command }])
          (command.run host session).2.run.skipping := by
        by_cases continuing : command = .continueItem
        · subst continuing
          exact continued past session
        · rw [command.run_skipping host plain continuing]
          exact noted past _ _ (fun starts => continuing (Option.some.inj starts)) here
      refine ⟨.cons (by rwa [List.append_nil]) (.cons started .nil), ?_⟩
      simpa using noted _ { session := (command.run host session).2 } _ nofun started
  | iterated body skipProcessed _ =>
      exact ⟨.cons (by rwa [List.append_nil]) .nil, iterated past body skipProcessed _ _ here⟩
  | @opened session _ _ command _ _ opens _ _ ih =>
      have other : some command ≠ some Command.continueItem := by
        cases opens <;> exact nofun
      have started := noted past { session, starting := some command } _ other here
      obtain ⟨along, last⟩ := ih _ (noted _ { session := session.counted } _ nofun started)
      refine ⟨.cons (by rwa [List.append_nil]) (.cons started ?_), by simpa using last⟩
      simpa using along

end Account

/-!
## The chapters of one command
-/

/-- With every command that starts in some chapters begins an account of that command. -/
def Headed (host : Host σ) (chapters : List (Chapter σ)) : Prop :=
  ∀ chapter after command, chapter :: after <:+ chapters → chapter.starting = some command →
    ∃ own later ended, chapter :: after = own ++ later ∧
      Account host (.one command) chapter.session own ended

namespace Headed

variable {host : Host σ} {chapter : Chapter σ} {first rest chapters : List (Chapter σ)}

theorem nil : Headed host [] :=
  fun chapter after _ tail => absurd (List.suffix_nil.mp tail) (List.cons_ne_nil chapter after)

theorem cons (here : ∀ command, chapter.starting = some command → ∃ own later ended,
      chapter :: rest = own ++ later ∧ Account host (.one command) chapter.session own ended)
    (headed : Headed host rest) : Headed host (chapter :: rest) := by
  intro entry after command tail starts
  rcases List.suffix_cons_iff.mp tail with same | tail
  · cases same
    exact here command starts
  · exact headed entry after command tail starts

theorem quiet (session : Session σ) (headed : Headed host rest) :
    Headed host (.moment { session } :: rest) :=
  headed.cons nofun

theorem append (begun : Headed host first) (headed : Headed host rest) :
    Headed host (first ++ rest) := by
  induction first with
  | nil => exact headed
  | cons chapter first ih =>
      refine .cons (fun command starts => ?_)
        (ih fun entry after command tail =>
          begun entry after command (tail.trans (List.suffix_cons _ _)))
      obtain ⟨own, later, ended, split, account⟩ :=
        begun chapter first command (List.suffix_refl _) starts
      refine ⟨own, later ++ rest, ended, ?_, account⟩
      rw [← List.append_assoc, ← split]
      rfl

end Headed

theorem Account.headed {host : Host σ} {stretch : Stretch} {session final : Session σ}
    {chapters : List (Chapter σ)} (account : Account host stretch session chapters final) :
    Headed host chapters := by
  -- An account of one command is its own head.
  have whole {command : Command} {chapter : Chapter σ} {rest : List (Chapter σ)}
      {final : Session σ} (starts : chapter.starting = some command)
      (account : Account host (.one command) chapter.session (chapter :: rest) final) :
      ∀ other, chapter.starting = some other → ∃ own later ended,
        chapter :: rest = own ++ later ∧ Account host (.one other) chapter.session own ended := by
    intro other same
    cases starts.symm.trans same
    exact ⟨chapter :: rest, [], final, (List.append_nil _).symm, account⟩
  induction account with
  | done => exact .nil
  | passed _ _ ih => exact .quiet _ ih
  | ran _ _ _ _ _ one others => exact .append one others
  | plain command plain => exact .cons (whole rfl (.plain command plain)) (.quiet _ .nil)
  | iterated body skipProcessed genuine =>
      exact .cons (whole rfl (.iterated body skipProcessed genuine)) .nil
  | opened opens fully inner ih =>
      exact .cons (whole rfl (.opened opens fully inner)) (.quiet _ ih)

/-- A choice that goes through nothing skipped runs one of its branches in full. -/
theorem Account.chosen_fully {host : Host σ} {session final : Session σ}
    {chapters : List (Chapter σ)} {condition : Condition} {thenBranch elseBranch : List Command}
    (account : Account host (.one (.choose condition thenBranch elseBranch)) session chapters final)
    (unskipped : ∀ chapter ∈ chapters, chapter.session.run.skipping = false) :
    (Command.choose condition thenBranch elseBranch).run host session =
      attempt (Interp.chooseFully host condition (Command.steps host thenBranch)
        (Command.steps host elseBranch)) session := by
  cases account with
  | plain _ plain => cases plain
  | opened _ fully _ =>
      exact fully _ _ _ rfl fun chapter found =>
        unskipped chapter (List.mem_cons_of_mem _ (List.mem_cons_of_mem _ found))

/-!
## Runs of recipes
-/

/-- The chapters of a run, as far as a skip is concerned: one is there only after something that
leaves a skip behind, and so it is right after an iteration; and a choice before and within
which there is no such thing runs its branch in full. -/
structure Contained (host : Host σ) (chapters : List (Chapter σ)) : Prop where
  skips : Throughout (fun before chapter => chapter.session.run.skipping = true →
    ∃ cause ∈ before, cause.Leaks host) chapters
  iterations : Throughout (fun before chapter => ∀ body skipProcessed,
    chapter.starting = some (.forEachItem body skipProcessed) →
    ((Command.forEachItem body skipProcessed).run host chapter.session).2.run.skipping = true →
    ∃ cause ∈ before ++ [chapter], cause.Leaks host) chapters
  choices : ∀ before chapter after condition thenBranch elseBranch,
    chapters = before ++ chapter :: after →
    chapter.starting = some (.choose condition thenBranch elseBranch) →
    ∃ own later ended, chapter :: after = own ++ later ∧
      Account host (.one (.choose condition thenBranch elseBranch)) chapter.session own ended ∧
      ((∀ cause ∈ before ++ own, ¬cause.Leaks host) →
        (Command.choose condition thenBranch elseBranch).run host chapter.session =
          attempt (Interp.chooseFully host condition (Command.steps host thenBranch)
            (Command.steps host elseBranch)) chapter.session)

theorem Account.contained {host : Host σ} {stretch : Stretch} {session final : Session σ}
    {chapters : List (Chapter σ)} (account : Account host stretch session chapters final)
    (fresh : session.run.skipping = false) :
    Contained host chapters ∧
      (final.run.skipping = true → ∃ cause ∈ chapters, cause.Leaks host) := by
  have kept {past : List (Chapter σ)} (news : List (Chapter σ))
      (caused : ∃ cause ∈ past, cause.Leaks host) : ∃ cause ∈ past ++ news, cause.Leaks host := by
    obtain ⟨cause, found, leaks⟩ := caused
    exact ⟨cause, List.mem_append_left news found, leaks⟩
  have last (past : List (Chapter σ)) {chapter : Chapter σ} (leaks : chapter.Leaks host) :
      ∃ cause ∈ past ++ [chapter], cause.Leaks host :=
    ⟨chapter, List.mem_append_right past List.mem_cons_self, leaks⟩
  obtain ⟨along, ends⟩ := account.tracks
    (fun past skipping => skipping = true → ∃ cause ∈ past, cause.Leaks host)
    (fun past moment skipping _ caused skip => kept _ (caused skip))
    (fun past session _ => last past rfl)
    (fun past body skipProcessed session moments caused skip =>
      (Command.forEachItem_skip skip).elim (fun before => kept _ (caused before))
        fun breaks => last past breaks)
    [] (fun skip => absurd (fresh.symm.trans skip) Bool.false_ne_true)
  have skips : Throughout (fun before chapter => chapter.session.run.skipping = true →
      ∃ cause ∈ before, cause.Leaks host) chapters := along
  refine ⟨⟨skips, ?_, ?_⟩, ends⟩
  · intro before chapter after split body skipProcessed starts skip
    have genuine :=
      account.genuine chapter (split ▸ List.mem_append_right before List.mem_cons_self)
    cases chapter with
    | moment noted => exact absurd starts (genuine body skipProcessed)
    | iteration _ _ session moments =>
        cases starts
        rcases Command.forEachItem_skip skip with already | breaks
        · exact kept _ (skips before _ after split already)
        · exact last before breaks
  · intro before chapter after condition thenBranch elseBranch split starts
    obtain ⟨own, later, ended, parts, inner⟩ :=
      account.headed chapter after _ (split ▸ List.suffix_append before _) starts
    refine ⟨own, later, ended, parts, inner, fun clean => inner.chosen_fully fun entry found => ?_⟩
    obtain ⟨pre, post, rfl⟩ := List.append_of_mem found
    refine Bool.eq_false_iff.mpr fun skip => ?_
    obtain ⟨cause, earlier, leaks⟩ := skips (before ++ pre) entry (post ++ later)
      (by rw [split, parts]; simp) skip
    refine clean cause ?_ leaks
    rcases List.mem_append.mp earlier with found | found
    · exact List.mem_append_left _ found
    · exact List.mem_append_right _ (List.mem_append_left _ found)

/-- A command to continue is outside of the items only where the commands have one there. -/
theorem Account.leaks_of_no_continue {host : Host σ} {stretch : Stretch} {session final : Session σ}
    {chapters : List (Chapter σ)} (account : Account host stretch session chapters final)
    (none : stretch.continues = false) :
    ∀ cause ∈ chapters, cause.Leaks host → ∃ body skipProcessed moments,
      cause = .iteration body skipProcessed cause.session moments ∧
        Breaks host body skipProcessed cause.session := by
  intro cause found leaks
  cases cause with
  | moment noted => exact absurd leaks (account.no_continue none _ found)
  | iteration body skipProcessed session moments => exact ⟨body, skipProcessed, moments, rfl, leaks⟩

namespace Session

variable (host : Host σ) (recipe : Recipe) (session : Session σ)

/-- What a run does outside of the items: the rest is skipped there only after a command to
continue that stands in no body of an iteration, or after an iteration that broke. Until then
every choice there runs its branch up to a failure or a stop, and every iteration that finds no
items, or is through with them, leaves nothing skipped. -/
theorem execute_contains_skips :
    ∃ result final chapters,
      Telling.execute host recipe (session, []) = (result, final, momentsOf chapters) ∧
      execute host recipe session = (result, final) ∧
      (∀ chapter ∈ chapters, chapter.Genuine host) ∧
      Contained host chapters ∧
      (final.run.skipping = true → ∃ cause ∈ chapters, cause.Leaks host) ∧
      (Command.anyContinues recipe.commands = false → ∀ cause ∈ chapters, cause.Leaks host →
        ∃ body skipProcessed moments,
          cause = .iteration body skipProcessed cause.session moments ∧
            Breaks host body skipProcessed cause.session) ∧
      (∀ body skipProcessed (other : Session σ),
        ((Command.forEachItem body skipProcessed).run host other).2.run.skipping = true →
        other.run.skipping = true ∨ Breaks host body skipProcessed other) := by
  obtain ⟨chapters, told, begun⟩ := @Recounts.execute _ host recipe session
  have account : Account host (.any false recipe.commands) (begin host recipe.limits session).2
      (.moment { session := (begin host recipe.limits session).2 } :: chapters)
      (execute host recipe session).2 := .passed rfl begun
  have fresh : (begin host recipe.limits session).2.run.skipping = false := by
    rw [(begin_fresh host session recipe.limits).1]
  obtain ⟨contained, ends⟩ := account.contained fresh
  exact ⟨_, _, _, told, rfl, account.genuine, contained, ends, account.leaks_of_no_continue,
    fun _ _ _ => Command.forEachItem_skip⟩

end Session

/-!
## A skip that outlives its iteration
-/

namespace Rehearsal

/-- A page whose second item has an address to read its id from, by a pattern that is none. -/
def brokenStart : Session World :=
  Session.start clock
    { updatedAt := 0
      list := "#list"
      listItem := ".job-card"
      itemId := some { source := .href, pattern := some "(" } }
    { stage :=
        { items :=
            [{ id := some "a", text := "a" },
              { id := some "b", text := "b", href := some "/jobs/2" }]
          visible := 2 } }

/-- One pass over the list, which leaves every item at once, and then a count of new items. -/
def leakyRecipe : Recipe where
  id := "leak"
  commands :=
    [.repeatUntil [.forEachItem [.continueItem] true, .choose .newItems [.checkpointCount] []]
      (.collected 1)]

def onePassHost : Host World :=
  { page, clock, settings := { maxRepeatIterations := 1 } }

/-- The skip of the first item is still there after the iteration, which breaks at the second
one, and the branch that counts the two new items does not run. -/
theorem leakyRecipe_leaves_skip :
    (Session.execute onePassHost leakyRecipe brokenStart).2.run.skipping = true ∧
      (Session.execute onePassHost leakyRecipe brokenStart).2.run.checkpoint = 0 ∧
      (Telling.execute onePassHost leakyRecipe (brokenStart, [])).2.2.filterMap
          (·.starting.map Command.tag) =
        ["REPEAT", "FOR_EACH_ITEM_IN_LIST", "CONTINUE", "IF"] := by
  refine ⟨?_, ?_, ?_⟩ <;> decide +kernel

end Rehearsal

end Gleaner
