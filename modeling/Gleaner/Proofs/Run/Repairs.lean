import Gleaner.Proofs.Bindings.Amend
import Gleaner.Proofs.Run.Beside
import Gleaner.Proofs.Run.Stop

/-!
# The protocol of repairs

A repairer that logs what it is asked shows when it is asked: after a command of the recipe
itself has failed for want of a better binding, and once for that command. Only a patch that is
accepted changes the bindings, makes their next version and brings the command one more try;
after any other answer the failure stands.
-/

set_option autoImplicit false

namespace Gleaner

variable {σ : Type}

/-- The repairer that also logs what it is asked, beside the world. -/
def Repairer.recording (repairer : Repairer σ) : Repairer (σ × List RepairRequest) :=
  fun request (world, asked) =>
    ((repairer request world).1, (repairer request world).2, asked ++ [request])

/-- The host whose repairer logs what it is asked. -/
def Host.recording (host : Host σ) : Host (σ × List RepairRequest) :=
  host.beside (host.repairer.map Repairer.recording)

/-- The outcome of a command that was tried once more with new bindings. -/
def Outcome.afterFix : Outcome → Outcome
  | .ok report => .ok report
  | .failed error _ => .failed ("Command failed after fix: " ++ error) false

namespace Session

/-- What a repairer is told about a command that failed. -/
def request (host : Host σ) (command : Command) (binding error : String) (failed : Session σ) :
    RepairRequest :=
  { command, binding, current := failed.bindings.value? binding, error
    dom := (domText host failed).1 }

/-- The session with its new bindings, which count as a fix. -/
def fixed (patched : Session σ) : Session σ :=
  { patched with run := patched.run.countFix }

/-- The session has a version of the bindings, as many versions later as there were fixes. -/
structure Descends (original : PageBindings) (session : Session σ) : Prop where
  version : session.bindings.version = original.version + session.run.stats.bindingFixes
  id : session.bindings.id = original.id
  urlPattern : session.bindings.urlPattern = original.urlPattern

end Session

/-- Answers of a repairer that bring no new bindings: a fault, no patch, an empty patch, and one
that does not make a record. -/
inductive Useless (clock : Clock σ) (session : Session σ) : Except Fault (Option Fields) → Prop where
  | raised (fault : Fault) : Useless clock session (.error fault)
  | nothing : Useless clock session (.ok none)
  | empty : Useless clock session (.ok (some []))
  | refused {changes : Fields} {fault : Fault} :
      session.patch clock changes = .error fault → Useless clock session (.ok (some changes))

/-- The command was run, it failed for want of a better binding, and the repairer was told so
and gave an answer. -/
structure Asked (host : Host σ) (command : Command) (before : Session σ)
    (request : RepairRequest) (answer : Except Fault (Option Fields)) (after : Session σ) : Prop where
  failed : (command.run host before).1 = .failed request.error true
  keyed : command.bindingKey? = some request.binding
  told : request =
    (command.run host before).2.request host command request.binding request.error
  answered : ∃ repairer, host.repairer = some repairer ∧
    Session.observe (repairer request) (Session.domText host (command.run host before).2).2 =
      (answer, after)
  bindings : after.bindings = before.bindings
  bindingFixes : after.run.stats.bindingFixes = before.run.stats.bindingFixes
  stopped : after.run.stopped = before.run.stopped

/-- How a command of the recipe goes: what is asked of the repairer, the outcome, and the session
after it. -/
inductive Course (host : Host σ) (command : Command) (before : Session σ) :
    List RepairRequest → Outcome → Session σ → Prop where
  | succeeded {report : Report} {after : Session σ} :
      command.run host before = (.ok report, after) → Course host command before [] (.ok report) after
  | stands {error : String} {repairable : Bool} {after : Session σ} :
      command.run host before = (.failed error repairable, after) →
      repairable = false ∨ command.bindingKey? = none ∨ host.repairer = none →
      Course host command before [] (.failed error repairable) after
  | unhelped {request : RepairRequest} {answer : Except Fault (Option Fields)} {after : Session σ} :
      Asked host command before request answer after → Useless host.clock after answer →
      Course host command before [request] (.failed request.error true) after
  | retried {request : RepairRequest} {changes : Fields} {after patched : Session σ} :
      Asked host command before request (.ok (some changes)) after → changes ≠ [] →
      after.patch host.clock changes = .ok patched →
      Course host command before [request] (command.run host patched.fixed).1.afterFix
        (command.run host patched.fixed).2

/-- How the commands of a recipe go, with the error that ends them, if one does. -/
inductive Courses (host : Host σ) :
    List Command → Session σ → List RepairRequest → Option String → Session σ → Prop where
  | done {session : Session σ} : Courses host [] session [] none session
  | stopped {command : Command} {rest : List Command} {session : Session σ} :
      session.checkTime.run.stopped = true →
      Courses host (command :: rest) session [] none session.checkTime
  | next {command : Command} {rest : List Command} {session after final : Session σ}
      {requests more : List RepairRequest} {report : Report} {error : Option String} :
      session.checkTime.run.stopped = false →
      Course host command session.checkTime requests (.ok report) after →
      Courses host rest after more error final →
      Courses host (command :: rest) session (requests ++ more) error final
  | failed {command : Command} {rest : List Command} {session after : Session σ}
      {requests : List RepairRequest} {error : String} {repairable : Bool} :
      session.checkTime.run.stopped = false →
      Course host command session.checkTime requests (.failed error repairable) after →
      Courses host (command :: rest) session requests (some error) after

/-!
## One command
-/

/-- A command that depends on a binding changes no bindings, counts no fix and stops no run. -/
theorem Command.run_of_key (host : Host σ) {command : Command}
    (keyed : command.bindingKey?.isSome = true) (session : Session σ) :
    (command.run host session).2.bindings = session.bindings ∧
      (command.run host session).2.run.stats.bindingFixes = session.run.stats.bindingFixes ∧
      (command.run host session).2.run.stopped = session.run.stopped := by
  have stopped := command.run_stopped_of_key host keyed session
  obtain ⟨run, world, reached, deed⟩ := command.run_deed host (isPlain_of_key keyed) session
  rw [reached] at stopped ⊢
  exact ⟨rfl, deed.counters.2, stopped⟩

namespace Session

variable (host : Host σ)

theorem domText_framed {L : Type} (repairer : Option (Repairer (σ × L))) :
    Framed (domText (host.beside repairer)) (domText host) := by
  refine .bind (fun _ _ => rfl) fun seen => ?_
  cases seen with
  | ok state => exact .pure _
  | error fault => exact .pure _

theorem domText_recording : Framed (domText host.recording) (domText host) :=
  domText_framed host host.recording.repairer

theorem request_recording (command : Command) (binding error : String) (failed : Session σ)
    (asked : List RepairRequest) :
    (failed.beside asked).request host.recording command binding error =
      failed.request host command binding error := by
  simp only [request, domText_recording host asked failed]
  rfl

theorem observe_recording (repairer : Repairer σ) (request : RepairRequest) (session : Session σ)
    (asked : List RepairRequest) :
    observe (repairer.recording request) (session.beside asked) =
      ((observe (repairer request) session).1,
        (observe (repairer request) session).2.beside (asked ++ [request])) :=
  rfl

theorem patch_beside {L : Type} (kept : L) (changes : Fields) (session : Session σ) :
    (session.beside kept).patch (host.clock.beside L) changes =
      (session.patch host.clock changes).map (·.beside kept) := by
  show (session.bindings.merge (host.clock.time session.world) changes >>= _) =
    (session.bindings.merge (host.clock.time session.world) changes >>= _).map _
  cases session.bindings.merge (host.clock.time session.world) changes <;> rfl

/-- The patch that an answer has, empty if it has none. -/
def changesOf : Except Fault (Option Fields) → Fields
  | .ok (some changes) => changes
  | _ => []

/-- What comes of a proposed patch. -/
def settle (command : Command) (failure : Outcome) (changes : Fields) (after : Session σ) :
    Outcome × Session σ :=
  if changes.isEmpty then (failure, after)
  else
    match after.patch host.clock changes with
    | .error _ => (failure, after)
    | .ok patched =>
        ((command.run host patched.fixed).1.afterFix, (command.run host patched.fixed).2)

theorem settle_framed {L : Type} (repairer : Option (Repairer (σ × L))) (command : Command)
    (failure : Outcome) (changes : Fields) (after : Session σ) (kept : L) :
    settle (host.beside repairer) command failure changes (after.beside kept) =
      ((settle host command failure changes after).1,
        (settle host command failure changes after).2.beside kept) := by
  unfold settle
  split
  · rfl
  · have clock : (host.beside repairer).clock = host.clock.beside L := rfl
    rw [clock, patch_beside host kept changes after]
    cases after.patch host.clock changes with
    | error fault => rfl
    | ok patched =>
        have fixed : (patched.beside kept).fixed = patched.fixed.beside kept := rfl
        simp only [Except.map, fixed]
        rw [Command.run_framed host repairer command kept patched.fixed]

theorem settle_recording (command : Command) (failure : Outcome) (changes : Fields)
    (after : Session σ) (asked : List RepairRequest) :
    settle host.recording command failure changes (after.beside asked) =
      ((settle host command failure changes after).1,
        (settle host command failure changes after).2.beside asked) :=
  settle_framed host host.recording.repairer command failure changes after asked

theorem repairAndRetry_apply (command : Command) (failure : Outcome) (session : Session σ) :
    repairAndRetry host command failure session =
      settle host command failure (proposal host command failure session).1
        (proposal host command failure session).2 := by
  rw [repairAndRetry, bind_apply]
  rcases proposal host command failure session with ⟨changes, after⟩
  simp only [settle]
  split
  · rfl
  · rw [bind_apply, get_apply]
    cases after.patch host.clock changes with
    | error fault => rfl
    | ok patched =>
        dsimp only
        rw [bind_apply, bind_apply]
        show (match (command.run host patched.fixed).1 with
          | .ok report => (pure (.ok report) : StateM (Session σ) Outcome)
          | .failed error _ => pure (.failed ("Command failed after fix: " ++ error) false))
            (command.run host patched.fixed).2 = _
        cases (command.run host patched.fixed).1 <;> rfl

theorem repairAndRetry_unasked {command : Command} {error : String} {repairable : Bool}
    (unasked : repairable = false ∨ command.bindingKey? = none ∨ host.repairer = none)
    (failed : Session σ) :
    repairAndRetry host command (.failed error repairable) failed =
      (.failed error repairable, failed) := by
  rw [repairAndRetry_apply, proposal_unasked unasked]
  rfl

theorem repairAndRetry_asked {command : Command} {binding error : String} {repairer : Repairer σ}
    (keyed : command.bindingKey? = some binding) (given : host.repairer = some repairer)
    (failed : Session σ) :
    repairAndRetry host command (.failed error true) failed =
      settle host command (.failed error true)
        (changesOf (observe (repairer (failed.request host command binding error))
          (domText host failed).2).1)
        (observe (repairer (failed.request host command binding error)) (domText host failed).2).2 := by
  have proposed : proposal host command (.failed error true) failed =
      (changesOf (observe (repairer (failed.request host command binding error))
        (domText host failed).2).1,
        (observe (repairer (failed.request host command binding error)) (domText host failed).2).2) := by
    unfold proposal
    rw [keyed, given]
    simp only [bind_apply, get_apply, request]
    generalize observe (repairer _) _ = told
    rcases told with ⟨fault | _ | changes, after⟩ <;> rfl
  rw [repairAndRetry_apply, proposed]

section Asking

variable {command : Command} {binding error : String} {repairer : Repairer σ}
  {before failed : Session σ} (ran : command.run host before = (.failed error true, failed))
  (keyed : command.bindingKey? = some binding) (given : host.repairer = some repairer)

include ran keyed given

/-- Neither the command that failed nor the repairer has changed the bindings. -/
theorem asked_of_failed : Asked host command before (failed.request host command binding error)
    (observe (repairer (failed.request host command binding error)) (domText host failed).2).1
    (observe (repairer (failed.request host command binding error)) (domText host failed).2).2 := by
  obtain ⟨bindings, bindingFixes, stopped⟩ :=
    command.run_of_key host (by rw [keyed]; rfl) before
  rw [ran] at bindings bindingFixes stopped
  obtain ⟨seen, watched⟩ := domText_watches host failed
  refine ⟨by rw [ran]; rfl, keyed, by rw [ran]; rfl, ⟨repairer, given, by rw [ran]; rfl⟩, ?_, ?_, ?_⟩
  all_goals
    rw [watched]
    assumption

end Asking

/-- Whatever the answer is, what comes of it is a course of the command. -/
theorem settle_course {command : Command} {before after : Session σ} {request : RepairRequest}
    {answer : Except Fault (Option Fields)}
    (asked : Asked host command before request answer after) :
    Course host command before [request]
      (settle host command (.failed request.error true) (changesOf answer) after).1
      (settle host command (.failed request.error true) (changesOf answer) after).2 := by
  rcases answer with fault | _ | changes
  · exact .unhelped asked (.raised fault)
  · exact .unhelped asked .nothing
  · cases changes with
    | nil => exact .unhelped asked .empty
    | cons change rest =>
        cases accepted : after.patch host.clock (change :: rest) with
        | error fault => simpa [settle, changesOf, accepted] using Course.unhelped asked (.refused accepted)
        | ok patched =>
            simpa [settle, changesOf, accepted] using Course.retried asked (List.cons_ne_nil _ _) accepted

theorem runTop_apply (command : Command) (session : Session σ) :
    runTop host command session =
      match command.run host session with
      | (.ok report, after) => (.ok report, after)
      | (.failed error repairable, failed) =>
          repairAndRetry host command (.failed error repairable) failed := by
  rw [runTop, bind_apply]
  rcases command.run host session with ⟨report | error, after⟩ <;> rfl

theorem run_recording (command : Command) (session : Session σ) (asked : List RepairRequest) :
    command.run host.recording (session.beside asked) =
      ((command.run host session).1, (command.run host session).2.beside asked) :=
  Command.run_framed host host.recording.repairer command asked session

/-- A command of the recipe takes one of its courses, and the log has what the course says. -/
theorem runTop_course (command : Command) (session : Session σ) :
    ∃ requests, Course host command session requests (runTop host command session).1
        (runTop host command session).2 ∧
      ∀ asked, runTop host.recording command (session.beside asked) =
        ((runTop host command session).1,
          (runTop host command session).2.beside (asked ++ requests)) := by
  simp only [runTop_apply, run_recording]
  rcases ran : command.run host session with ⟨report | ⟨error, repairable⟩, failed⟩
  · exact ⟨[], .succeeded ran, fun asked => by rw [List.append_nil]⟩
  · dsimp only
    by_cases unasked : repairable = false ∨ command.bindingKey? = none ∨ host.repairer = none
    · have unasked' : repairable = false ∨ command.bindingKey? = none ∨
          host.recording.repairer = none :=
        unasked.imp_right (.imp_right fun none => by simp [Host.recording, Host.beside, none])
      refine ⟨[], ?_, fun asked => ?_⟩
      · rw [repairAndRetry_unasked host unasked]
        exact .stands ran unasked
      · rw [repairAndRetry_unasked host unasked, repairAndRetry_unasked _ unasked', List.append_nil]
    · obtain ⟨repairable, ⟨binding, keyed⟩, repairer, given⟩ : repairable = true ∧
          (∃ binding, command.bindingKey? = some binding) ∧
          ∃ repairer, host.repairer = some repairer := by
        simpa [← Option.ne_none_iff_exists', not_or] using unasked
      subst repairable
      have recorded : host.recording.repairer = some repairer.recording := by
        simp [Host.recording, Host.beside, given]
      have asked := asked_of_failed host ran keyed given
      refine ⟨[failed.request host command binding error], ?_, fun log => ?_⟩
      · rw [repairAndRetry_asked host keyed given]
        exact settle_course host asked
      · rw [repairAndRetry_asked host keyed given, repairAndRetry_asked _ keyed recorded,
          request_recording, domText_recording host log failed, observe_recording, settle_recording]

/-!
## Whole runs
-/

theorem runAll_cons (command : Command) (rest : List Command) (session : Session σ) :
    runAll host (command :: rest) session =
      if session.checkTime.run.stopped then (none, session.checkTime)
      else
        match runTop host command session.checkTime with
        | (.ok _, after) => runAll host rest after
        | (.failed error _, after) => (some error, after) := by
  show (if session.checkTime.run.stopped then pure none else _ : StateM _ _) session.checkTime = _
  split
  · rfl
  · rw [bind_apply]
    rcases runTop host command session.checkTime with ⟨report | error, after⟩ <;> rfl

theorem runAll_courses (commands : List Command) (session : Session σ) :
    ∃ requests, Courses host commands session requests (runAll host commands session).1
        (runAll host commands session).2 ∧
      ∀ asked, runAll host.recording commands (session.beside asked) =
        ((runAll host commands session).1,
          (runAll host commands session).2.beside (asked ++ requests)) := by
  induction commands generalizing session with
  | nil => exact ⟨[], .done, fun asked => by rw [List.append_nil]; rfl⟩
  | cons command rest ih =>
      simp only [runAll_cons, Session.checkTime_beside]
      obtain ⟨requests, course, logged⟩ := runTop_course host command session.checkTime
      cases stopped : session.checkTime.run.stopped with
      | true =>
          exact ⟨[], .stopped stopped, fun asked => by
            rw [List.append_nil, if_pos (show (session.checkTime.beside asked).run.stopped from stopped)]
            rfl⟩
      | false =>
          have going (asked : List RepairRequest) :
              (session.checkTime.beside asked).run.stopped = false := stopped
          simp only [going, logged]
          rcases ran : runTop host command session.checkTime with
            ⟨report | ⟨error, repairable⟩, after⟩
          all_goals rw [ran] at course
          · obtain ⟨more, courses, further⟩ := ih after
            refine ⟨requests ++ more, .next stopped course courses, fun asked => ?_⟩
            rw [← List.append_assoc]
            exact further _
          · exact ⟨requests, .failed stopped course, fun asked => rfl⟩

theorem begin_framed {L : Type} (repairer : Option (Repairer (σ × L))) (limits : RunLimits) :
    Framed (begin (host.beside repairer) limits) (begin host limits) := by
  intro kept session
  unfold begin
  cases limits.timeoutMs with
  | none => rfl
  | some timeoutMs =>
      have told : (host.beside repairer).clock.deadline timeoutMs (session.beside kept).world =
          (host.clock.deadline timeoutMs session.world).map fun reached later => reached later.1 :=
        rfl
      simp only [bind_apply, modify_apply, get_apply, told]
      cases host.clock.deadline timeoutMs session.world <;> rfl

theorem begin_recording (limits : RunLimits) :
    Framed (begin host.recording limits) (begin host limits) :=
  begin_framed host host.recording.repairer limits

end Session

/-- A command asks for a repair once at most, and for itself. -/
theorem Course.requests {host : Host σ} {command : Command} {before after : Session σ}
    {requests : List RepairRequest} {outcome : Outcome}
    (course : Course host command before requests outcome after) :
    (requests.map (·.command)).Sublist [command] := by
  have own {request : RepairRequest} {answer : Except Fault (Option Fields)} {after : Session σ}
      (asked : Asked host command before request answer after) : request.command = command := by
    rw [asked.told]
    rfl
  cases course with
  | succeeded => exact List.nil_sublist _
  | stands => exact List.nil_sublist _
  | unhelped asked _ => simp [own asked]
  | retried asked _ _ => simp [own asked]

theorem Courses.requests {host : Host σ} {commands : List Command} {session final : Session σ}
    {requests : List RepairRequest} {error : Option String}
    (courses : Courses host commands session requests error final) :
    (requests.map (·.command)).Sublist commands := by
  induction courses with
  | done => exact List.nil_sublist _
  | stopped => exact List.nil_sublist _
  | next _ course _ ih =>
      rw [List.map_append]
      exact course.requests.append ih
  | failed _ course => exact course.requests.trans (by simp)

/-!
## The version at every moment
-/

namespace Session.Descends

variable {host : Host σ} {original : PageBindings} {session : Session σ}

/-- Any session with these bindings and as many fixes descends from the same record. -/
theorem congr {next : Session σ} (descends : session.Descends original)
    (bindings : next.bindings = session.bindings)
    (bindingFixes : next.run.stats.bindingFixes = session.run.stats.bindingFixes) :
    next.Descends original :=
  ⟨by rw [bindings, bindingFixes]; exact descends.version, by rw [bindings]; exact descends.id,
    by rw [bindings]; exact descends.urlPattern⟩

theorem fixed {patched : Session σ} {clock : Clock σ} {changes : Fields}
    (descends : session.Descends original) (accepted : session.patch clock changes = .ok patched) :
    patched.fixed.Descends original := by
  obtain ⟨bindings, merged, rfl⟩ := patch_merges accepted
  obtain ⟨version, id, urlPattern⟩ := PageBindings.merge_identity merged
  refine ⟨?_, id.trans descends.id, urlPattern.trans descends.urlPattern⟩
  show bindings.version = original.version + ((session.run.stats.bindingFixes + 1 : Nat) : Int)
  rw [version, descends.version]
  omega

theorem move {next : Session σ} (descends : session.Descends original)
    (move : Move host session next) : next.Descends original := by
  cases move with
  | repaired changes going accepted => exact descends.fixed accepted
  | timeChecked =>
      refine descends.congr ?_ ?_
      all_goals
        rcases session.checkTime_cases with ⟨-, same⟩ | ⟨-, same⟩ <;> rw [same]
  | _ => exact descends.congr rfl rfl

theorem plain {command : Command} (plain : command.isPlain = true)
    (descends : session.Descends original) : (command.run host session).2.Descends original := by
  obtain ⟨run, world, reached, deed⟩ := command.run_deed host plain session
  rw [reached]
  exact descends.congr rfl deed.counters.2

theorem journey {final : Session σ} {news : List (Moment σ)}
    (descends : session.Descends original) (journey : Journey host session news final) :
    ∀ moment ∈ news, moment.session.Descends original :=
  (journey.preserves (·.Descends original) move (fun _ => plain) (fun here => here.congr rfl rfl)
    descends).1

end Session.Descends

/-- The session has the bindings it began with, or a version of them that is later by as many
versions as there were fixes. -/
structure Session.Follows (original : PageBindings) (session : Session σ) : Prop
    extends session.Descends original where
  unfixed : session.run.stats.bindingFixes = 0 → session.bindings = original

namespace Session.Follows

variable {host : Host σ} {original : PageBindings} {session : Session σ}

theorem congr {next : Session σ} (follows : session.Follows original)
    (bindings : next.bindings = session.bindings)
    (bindingFixes : next.run.stats.bindingFixes = session.run.stats.bindingFixes) :
    next.Follows original :=
  ⟨follows.toDescends.congr bindings bindingFixes, by
    rw [bindings, bindingFixes]; exact follows.unfixed⟩

theorem move {next : Session σ} (follows : session.Follows original)
    (move : Move host session next) : next.Follows original := by
  cases move with
  | repaired changes going accepted =>
      exact ⟨follows.toDescends.fixed accepted, fun none => absurd none (Nat.succ_ne_zero _)⟩
  | timeChecked =>
      apply follows.congr
      all_goals
        rcases session.checkTime_cases with ⟨-, same⟩ | ⟨-, same⟩ <;> rw [same]
  | _ => exact follows.congr rfl rfl

theorem plain {command : Command} (plain : command.isPlain = true)
    (follows : session.Follows original) : (command.run host session).2.Follows original := by
  obtain ⟨run, world, reached, deed⟩ := command.run_deed host plain session
  rw [reached]
  exact follows.congr rfl deed.counters.2

theorem journey {final : Session σ} {news : List (Moment σ)} (follows : session.Follows original)
    (journey : Journey host session news final) : final.Follows original :=
  (journey.preserves (·.Follows original) move (fun _ => plain) (fun here => here.congr rfl rfl)
    follows).2

end Session.Follows

/-!
## The protocol
-/

namespace Session

variable (host : Host σ)

theorem begin_bindings (limits : RunLimits) (session : Session σ) :
    (begin host limits session).2.bindings = session.bindings := by
  obtain ⟨deadline, begun⟩ := begin_renews host session limits
  rw [begun]

theorem begin_descends (limits : RunLimits) (session : Session σ) :
    (begin host limits session).2.Descends session.bindings := by
  have bindings := begin_bindings host limits session
  have fresh := (begin_fresh host session limits).1
  exact ⟨by rw [bindings, fresh]; simp, by rw [bindings], by rw [bindings]⟩

theorem execute_follows (recipe : Recipe) (session : Session σ) :
    (execute host recipe session).2.Follows session.bindings := by
  obtain ⟨news, -, journey⟩ := @Tells.execute _ host recipe session
  have begun := begin_descends host recipe.limits session
  exact Follows.journey ⟨begun, fun _ => begin_bindings host recipe.limits session⟩ journey

/-- The protocol of repairs. No command asks for a repair, nor does any inside it. A run whose
repairer keeps a log is the run, and what it logs are the requests of the courses that its
commands take, at most one for each command of the recipe. At every moment of the run the
bindings are a version of those it began with, as many versions later as there were fixes. -/
theorem execute_repairs (recipe : Recipe) (session : Session σ) :
    (∀ (command : Command) (here : Session σ) (asked : List RepairRequest),
      command.run host.recording (here.beside asked) =
        ((command.run host here).1, (command.run host here).2.beside asked)) ∧
    (∃ requests,
      (∀ asked, execute host.recording recipe (session.beside asked) =
        ((execute host recipe session).1,
          (execute host recipe session).2.beside (asked ++ requests))) ∧
      (requests.map (·.command)).Sublist recipe.commands ∧
      ((∃ fault, (execute host recipe session).1 = .error fault ∧ requests = []) ∨
        ∃ error after result,
          Courses host recipe.commands (begin host recipe.limits session).2 requests error after ∧
          (execute host recipe session).1 = .ok result ∧
          (∀ message, error = some message → result.error = some message) ∧
          (execute host recipe session).2.bindings = after.bindings ∧
          result.stats.bindingFixes = after.run.stats.bindingFixes)) ∧
    ∃ moments,
      Telling.execute host recipe (session, []) =
        ((execute host recipe session).1, (execute host recipe session).2, moments) ∧
      ∀ moment ∈ moments, moment.session.Descends session.bindings := by
  refine ⟨run_recording host, ?_, ?_⟩
  · have begun (asked : List RepairRequest) := begin_recording host recipe.limits asked session
    simp only [execute_apply, begun]
    rcases begin host recipe.limits session with ⟨fault | _, here⟩
    · exact ⟨[], fun asked => by rw [List.append_nil], List.nil_sublist _, .inl ⟨fault, rfl, rfl⟩⟩
    · obtain ⟨requests, courses, logged⟩ := runAll_courses host recipe.commands here
      refine ⟨requests, fun asked => ?_, courses.requests, .inr ?_⟩
      · dsimp only
        rw [logged]
        rfl
      · refine ⟨_, _, _, courses, rfl, fun message ended => ?_, rfl, rfl⟩
        show (runAll host recipe.commands here).1.or _ = some message
        rw [ended]
        rfl
  · obtain ⟨news, told, journey⟩ := @Tells.execute _ host recipe session
    have descends := begin_descends host recipe.limits session
    exact ⟨_, told, List.forall_mem_cons.mpr ⟨descends, descends.journey journey⟩⟩

end Session

end Gleaner
