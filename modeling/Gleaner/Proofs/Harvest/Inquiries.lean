import Gleaner.Proofs.Harvest.Asking

/-!
# The inquiries of an advisor

An advisor with a log beside the world does what it does without one, and the log shows what it
asked. A question is put to the model until there is a reply, as often as the policy allows. It
counts as one call, and as failed if no reply came; the tokens of a reply are added.
-/

set_option autoImplicit false

namespace Gleaner

variable {σ α β : Type}

/-- A question to a model: the tries that failed, and the reply that ended them if one came. -/
structure Inquiry where
  completion : Completion
  faults : List Fault
  reply : Option Reply

/-- What the model answered, try after try. -/
def Inquiry.answers (inquiry : Inquiry) : List (Except Fault Reply) :=
  inquiry.faults.map .error ++ inquiry.reply.toList.map .ok

def Inquiry.tries (inquiry : Inquiry) : List (Completion × Except Fault Reply) :=
  inquiry.answers.map (inquiry.completion, ·)

/-- What an advisor counts, and every try of its model with the answer. -/
structure AdvisorLog where
  tally : Tally := {}
  tries : List (Completion × Except Fault Reply) := []

/-- The tally after one more question. -/
def Tally.enter (tally : Tally) (inquiry : Inquiry) : Tally :=
  match inquiry.reply with
  | some reply =>
      { tally with calls := tally.calls + 1, tokens := tally.tokens + reply.usage.total }
  | none => { tally with calls := tally.calls + 1, failed := tally.failed + 1 }

namespace AdvisorLog

def enter (log : AdvisorLog) (inquiry : Inquiry) : AdvisorLog :=
  { tally := log.tally.enter inquiry, tries := log.tries ++ inquiry.tries }

variable (inquiries : List Inquiry) (log : AdvisorLog)

theorem tries_entered :
    (inquiries.foldl enter log).tries = log.tries ++ inquiries.flatMap Inquiry.tries := by
  induction inquiries generalizing log with
  | nil => exact (List.append_nil _).symm
  | cons inquiry rest ih =>
      rw [List.foldl_cons, ih, List.flatMap_cons, ← List.append_assoc]
      rfl

theorem calls_entered :
    (inquiries.foldl enter log).tally.calls = log.tally.calls + inquiries.length := by
  induction inquiries generalizing log with
  | nil => rfl
  | cons inquiry rest ih =>
      have once : (log.enter inquiry).tally.calls = log.tally.calls + 1 := by
        cases given : inquiry.reply <;> simp only [enter, Tally.enter, given]
      rw [List.foldl_cons, ih, once, List.length_cons]
      omega

/-- A question either gets a reply or counts as failed. -/
theorem failed_entered :
    (inquiries.foldl enter log).tally.failed + (inquiries.filterMap Inquiry.reply).length =
      log.tally.failed + inquiries.length := by
  induction inquiries generalizing log with
  | nil => rfl
  | cons inquiry rest ih =>
      have next := ih (log.enter inquiry)
      rw [List.foldl_cons, List.filterMap_cons, List.length_cons]
      cases given : inquiry.reply with
      | none =>
          have once : (log.enter inquiry).tally.failed = log.tally.failed + 1 := by
            simp only [enter, Tally.enter, given]
          dsimp only
          omega
      | some reply =>
          have same : (log.enter inquiry).tally.failed = log.tally.failed := by
            simp only [enter, Tally.enter, given]
          simp only [List.length_cons]
          omega

theorem tokens_entered :
    (inquiries.foldl enter log).tally.tokens =
      (inquiries.filterMap Inquiry.reply).foldl (fun tokens reply => tokens + reply.usage.total)
        log.tally.tokens := by
  induction inquiries generalizing log with
  | nil => rfl
  | cons inquiry rest ih =>
      rw [List.foldl_cons, ih, List.filterMap_cons]
      cases given : inquiry.reply <;> simp only [enter, Tally.enter, given, List.foldl_cons]

end AdvisorLog

/-- The model whose tries are logged. -/
def Model.logged (model : Model σ) : Model (σ × AdvisorLog) :=
  { model.beside AdvisorLog with
    complete := fun completion (world, log) =>
      let (answer, after) := model.complete completion world
      (answer, after, { log with tries := log.tries ++ [(completion, answer)] }) }

/-- The advisor that keeps its tally in the log as well. -/
def Advisor.logged (advisor : Advisor σ) : Advisor (σ × AdvisorLog) :=
  { advisor.beside AdvisorLog with
    model := advisor.model.logged
    note := fun change (world, log) =>
      (advisor.note change world, { log with tally := change log.tally }) }

/-!
## Trying a model
-/

namespace Action

/-- The logged action does what the plain one does, which is to try a question so often at most
until there is a reply. -/
def Tries (completion : Completion) (most : Nat) (logged : Action (σ × AdvisorLog) Reply)
    (plain : Action σ Reply) : Prop :=
  ∀ world log, ∃ inquiry : Inquiry, inquiry.completion = completion ∧
    inquiry.reply = (plain world).1.toOption ∧ inquiry.answers.length ≤ most ∧
    logged (world, log) =
      ((plain world).1, (plain world).2, { log with tries := log.tries ++ inquiry.tries })

namespace Tries

variable {completion : Completion} {most : Nat} {logged loggedElse : Action (σ × AdvisorLog) Reply}
  {plain plainElse : Action σ Reply}

theorem throw (fault : Fault) :
    Tries completion most (MonadExcept.throw fault) (MonadExcept.throw fault : Action σ Reply) := by
  intro world log
  refine ⟨⟨completion, [], none⟩, rfl, rfl, Nat.zero_le most, ?_⟩
  rw [show Inquiry.tries ⟨completion, [], none⟩ = [] from rfl, List.append_nil]
  rfl

theorem ite {condition : Prop} [Decidable condition] (first : Tries completion most logged plain)
    (second : Tries completion most loggedElse plainElse) :
    Tries completion most (if condition then logged else loggedElse)
      (if condition then plain else plainElse) := by
  split
  · exact first
  · exact second

theorem after {before : Action (σ × AdvisorLog) α} {plainBefore : Action σ α}
    {next : α → Action (σ × AdvisorLog) Reply} {plainNext : α → Action σ Reply}
    (first : Framed before plainBefore)
    (rest : ∀ value, Tries completion most (next value) (plainNext value)) :
    Tries completion most (before >>= next) (plainBefore >>= plainNext) := by
  intro world log
  rw [bind_apply, bind_apply, first world log]
  rcases plainBefore world with ⟨fault | value, there⟩
  · exact throw fault there log
  · exact rest value there log

/-- One try, and further ones after a fault. -/
theorem again (model : Model σ) {handle : Fault → Action (σ × AdvisorLog) Reply}
    {plainHandle : Fault → Action σ Reply}
    (rest : ∀ fault, Tries completion most (handle fault) (plainHandle fault)) :
    Tries completion (most + 1) (MonadExcept.tryCatch (model.logged.complete completion) handle)
      (MonadExcept.tryCatch (model.complete completion) plainHandle) := by
  intro world log
  rw [tryCatch_apply, tryCatch_apply]
  simp only [Model.logged]
  rcases model.complete completion world with ⟨fault | reply, there⟩
  · obtain ⟨inquiry, rfl, replied, bounded, ran⟩ :=
      rest fault there { log with tries := log.tries ++ [(completion, .error fault)] }
    refine ⟨{ inquiry with faults := fault :: inquiry.faults }, rfl, replied, ?_, ?_⟩
    · simpa [Inquiry.answers] using bounded
    · dsimp only
      rw [ran, List.append_assoc]
      rfl
  · exact ⟨⟨completion, [], some reply⟩, rfl, rfl, Nat.le_add_left 1 most, rfl⟩

theorem once (model : Model σ) :
    Tries completion 1 (model.logged.complete completion) (model.complete completion) := by
  intro world log
  simp only [Model.logged]
  rcases model.complete completion world with ⟨fault | reply, there⟩
  · exact ⟨⟨completion, [fault], none⟩, rfl, rfl, Nat.le_refl 1, rfl⟩
  · exact ⟨⟨completion, [], some reply⟩, rfl, rfl, Nat.le_refl 1, rfl⟩

end Tries

end Action

namespace RetryPolicy

variable (policy : RetryPolicy) (pause : Span → Action σ Unit) (model : Model σ)
  (completion : Completion) {onRetry : Nat → Fault → Action σ Unit}
  {loggedRetry : Nat → Fault → Action (σ × AdvisorLog) Unit}
  (tells : ∀ attempt fault, Action.Framed (loggedRetry attempt fault) (onRetry attempt fault))

include tells

theorem attempts_tries (more attempt : Nat) (delay : Number) :
    Action.Tries completion (more + 1)
      (policy.attempts (fun span => (pause span).beside) loggedRetry
        (model.logged.complete completion) more attempt delay)
      (policy.attempts pause onRetry (model.complete completion) more attempt delay) := by
  induction more generalizing attempt delay with
  | zero => exact .once model
  | succ more ih =>
      refine .again model fun fault => .ite (.throw fault) ?_
      refine .after (.liftExcept _) fun span => .after (tells attempt fault) fun _ => ?_
      exact .after (.beside _) fun _ => .after (.liftExcept _) fun next => ih _ next

/-- A policy tries no more often than it says. -/
theorem run_tries :
    Action.Tries completion policy.maxAttempts.toNat
      (policy.run (fun span => (pause span).beside) loggedRetry
        (model.logged.complete completion))
      (policy.run pause onRetry (model.complete completion)) := by
  unfold run
  cases policy.initialDelayMs.toFloat? with
  | none => exact .throw _
  | some delay =>
      cases policy.maxAttempts.toNat with
      | zero => exact .throw _
      | succ more => exact attempts_tries policy pause model completion tells more 1 _

end RetryPolicy

/-!
## Asking
-/

namespace Action

/-- The logged action does what the plain one does, and the log has its inquiries. -/
def Inquires (shape : List Inquiry → Prop) (logged : Action (σ × AdvisorLog) α)
    (plain : Action σ α) : Prop :=
  ∀ world log, ∃ inquiries, shape inquiries ∧
    logged (world, log) =
      ((plain world).1, (plain world).2, inquiries.foldl AdvisorLog.enter log)

variable {first second whole shape : List Inquiry → Prop} {logged : Action (σ × AdvisorLog) α}
  {plain : Action σ α} {loggedNext : α → Action (σ × AdvisorLog) β} {next : α → Action σ β}

theorem Framed.inquires (framed : Framed logged plain) (none : shape []) :
    Inquires shape logged plain :=
  fun world log => ⟨[], none, framed world log⟩

namespace Inquires

theorem imp (inquires : Inquires first logged plain)
    (implies : ∀ inquiries, first inquiries → second inquiries) : Inquires second logged plain := by
  intro world log
  obtain ⟨inquiries, shaped, ran⟩ := inquires world log
  exact ⟨inquiries, implies inquiries shaped, ran⟩

/-- What the first action inquires is there even if it fails. -/
theorem bind (begins : Inquires first logged plain)
    (goesOn : ∀ value, Inquires second (loggedNext value) (next value))
    (alone : ∀ early, first early → whole early)
    (both : ∀ early late, first early → second late → whole (early ++ late)) :
    Inquires whole (logged >>= loggedNext) (plain >>= next) := by
  intro world log
  obtain ⟨early, shaped, ran⟩ := begins world log
  rw [bind_apply, bind_apply, ran]
  rcases plain world with ⟨fault | value, there⟩
  · exact ⟨early, alone early shaped, rfl⟩
  · obtain ⟨late, shapedLate, ranLate⟩ := goesOn value there (early.foldl AdvisorLog.enter log)
    refine ⟨early ++ late, both early late shaped shapedLate, ?_⟩
    rw [List.foldl_append]
    exact ranLate

theorem andThen (begins : Inquires shape logged plain)
    (rest : ∀ value, Framed (loggedNext value) (next value)) :
    Inquires shape (logged >>= loggedNext) (plain >>= next) := by
  have silent (value : α) : Inquires (· = []) (loggedNext value) (next value) :=
    (rest value).inquires rfl
  refine begins.bind silent (fun _ shaped => shaped) ?_
  rintro early _ shaped rfl
  rwa [List.append_nil]

theorem after (begins : Framed logged plain) (none : shape [])
    (rest : ∀ value, Inquires shape (loggedNext value) (next value)) :
    Inquires shape (logged >>= loggedNext) (plain >>= next) := by
  have silent : Inquires (· = []) logged plain := begins.inquires rfl
  refine silent.bind rest ?_ ?_
  · rintro _ rfl
    exact none
  · rintro _ late rfl shaped
    exact shaped

theorem ite {condition : Prop} [Decidable condition] {loggedElse : Action (σ × AdvisorLog) α}
    {plainElse : Action σ α} (holds : Inquires shape logged plain)
    (otherwise : Inquires shape loggedElse plainElse) :
    Inquires shape (if condition then logged else loggedElse)
      (if condition then plain else plainElse) := by
  split
  · exact holds
  · exact otherwise

theorem get {loggedNext : σ × AdvisorLog → Action (σ × AdvisorLog) β} {next : σ → Action σ β}
    (rest : ∀ world log, Inquires shape (loggedNext (world, log)) (next world)) :
    Inquires shape (MonadState.get >>= loggedNext) (MonadState.get >>= next) :=
  fun world log => rest world log world log

theorem tryCatch {handle : Fault → Action (σ × AdvisorLog) α} {plainHandle : Fault → Action σ α}
    (tried : Inquires shape logged plain)
    (rest : ∀ fault, Framed (handle fault) (plainHandle fault)) :
    Inquires shape (MonadExcept.tryCatch logged handle)
      (MonadExcept.tryCatch plain plainHandle) := by
  intro world log
  obtain ⟨inquiries, shaped, ran⟩ := tried world log
  refine ⟨inquiries, shaped, ?_⟩
  rw [tryCatch_apply, tryCatch_apply, ran]
  rcases plain world with ⟨fault | value, there⟩
  · exact rest fault there _
  · rfl

end Inquires

end Action

namespace Advisor

variable (advisor : Advisor σ)

def completion (prompt : Prompt) : Completion :=
  { messages := [⟨.system, prompt.system⟩, ⟨.user, prompt.user⟩], model := advisor.modelName }

/-- The inquiry puts a question, as often as the policy of the advisor allows. -/
structure Puts (prompt : Prompt) (inquiry : Inquiry) : Prop where
  completion : inquiry.completion = advisor.completion prompt
  bounded : inquiry.answers.length ≤ advisor.retry.maxAttempts.toNat

/-- The inquiries are a single one, which puts a question. -/
def PutsOnce (prompt : Prompt) (inquiries : List Inquiry) : Prop :=
  ∃ inquiry, advisor.Puts prompt inquiry ∧ inquiries = [inquiry]

/-- The inquiry asks where things are on a page. -/
def AsksPlaces (inquiry : Inquiry) : Prop :=
  ∃ prompt : Prompt, prompt.system = Prompt.discoverySystem ∧ advisor.Puts prompt inquiry

/-- The inquiries are one at most, and for where things are. -/
def Seeks (inquiries : List Inquiry) : Prop :=
  ∃ question : Option Inquiry,
    (∀ inquiry ∈ question, advisor.AsksPlaces inquiry) ∧ inquiries = question.toList

theorem Seeks.nothing : advisor.Seeks [] :=
  ⟨none, fun inquiry among => absurd among (Option.not_mem_none inquiry), rfl⟩

/-- What the advisor does about a question before the model is tried, and what it does after. -/
theorem ask_apply (prompt : Prompt) (world : σ) :
    advisor.ask prompt world =
      match advisor.retry.run advisor.clock.pause (fun _ _ => pure ())
        (advisor.model.complete (advisor.completion prompt))
        (advisor.note (fun tally => { tally with calls := tally.calls + 1 }) world) with
      | (.ok reply, after) =>
          (.ok reply.content,
            advisor.note (fun tally => { tally with tokens := tally.tokens + reply.usage.total })
              after)
      | (.error fault, after) =>
          (.error fault,
            advisor.note (fun tally => { tally with failed := tally.failed + 1 }) after) := by
  have begun : advisor.ask prompt world =
      (tryCatch (advisor.retry.run advisor.clock.pause (fun _ _ => pure ())
        (advisor.model.complete (advisor.completion prompt))) (fun fault => do
          modify (advisor.note fun tally => { tally with failed := tally.failed + 1 })
          throw fault) >>= fun reply => do
        modify (advisor.note fun tally => { tally with tokens := tally.tokens + reply.usage.total })
        return reply.content)
      (advisor.note (fun tally => { tally with calls := tally.calls + 1 }) world) := rfl
  rw [begun, Action.bind_apply, Action.tryCatch_apply]
  rcases advisor.retry.run advisor.clock.pause (fun _ _ => pure ())
    (advisor.model.complete (advisor.completion prompt))
    (advisor.note (fun tally => { tally with calls := tally.calls + 1 }) world) with
    ⟨fault | reply, after⟩ <;> rfl

theorem ask_inquires (prompt : Prompt) :
    Action.Inquires (advisor.PutsOnce prompt) (advisor.logged.ask prompt)
      (advisor.ask prompt) := by
  intro world log
  obtain ⟨inquiry, asked, replied, bounded, ran⟩ :=
    RetryPolicy.run_tries advisor.retry advisor.clock.pause advisor.model
      (advisor.completion prompt) (fun _ _ => .pure ())
      (advisor.note (fun tally => { tally with calls := tally.calls + 1 }) world)
      { log with tally := { log.tally with calls := log.tally.calls + 1 } }
  refine ⟨[inquiry], ⟨inquiry, ⟨asked, bounded⟩, rfl⟩, ?_⟩
  have tried : advisor.logged.retry.run advisor.logged.clock.pause (fun _ _ => pure ())
      (advisor.logged.model.complete (advisor.logged.completion prompt))
      (advisor.logged.note (fun tally => { tally with calls := tally.calls + 1 }) (world, log)) =
        _ := ran
  rw [ask_apply, ask_apply, tried, List.foldl_cons, List.foldl_nil, AdvisorLog.enter]
  rcases result : advisor.retry.run advisor.clock.pause (fun _ _ => pure ())
    (advisor.model.complete (advisor.completion prompt))
    (advisor.note (fun tally => { tally with calls := tally.calls + 1 }) world) with
    ⟨fault | reply, after⟩
  all_goals
    rw [result] at replied
    simp only [Tally.enter, replied]
    rfl

theorem inquire_inquires (prompt : Prompt) :
    Action.Inquires (advisor.PutsOnce prompt) (advisor.logged.inquire prompt)
      (advisor.inquire prompt) :=
  .tryCatch (.andThen (advisor.ask_inquires prompt) fun _ => .pure _) fun _ => .pure _

/-- A discovery asks once at most, and where things are. -/
theorem discover_inquires (snapshot : Option Snapshot) :
    Action.Inquires advisor.Seeks (advisor.logged.discover snapshot)
      (advisor.discover snapshot) := by
  cases snapshot with
  | none => exact (Action.Framed.ite (.pure _) (.throw _)).inquires (.nothing advisor)
  | some page =>
      refine .ite ((Action.Framed.pure _).inquires (.nothing advisor)) ?_
      refine .andThen ?_ fun answer => ?_
      · refine (advisor.inquire_inquires _).imp ?_
        rintro _ ⟨inquiry, puts, rfl⟩
        refine ⟨some inquiry, ?_, rfl⟩
        rintro _ ⟨⟩
        exact ⟨_, discovery_system .., puts⟩
      · cases answer with
        | error reason => exact .pure _
        | ok answer => exact .get fun _ _ => .liftExcept _

/-- A repair asks once, what the binding should be. -/
theorem repairer_inquires (request : RepairRequest) :
    Action.Inquires (advisor.PutsOnce (advisor.question request))
      (advisor.logged.repairer request) (advisor.repairer request) := by
  refine .andThen (.andThen (advisor.inquire_inquires _) fun answer => ?_) fun patch => ?_
  · cases answer with
    | error reason => exact .pure _
    | ok answer => exact .get fun _ _ => .pure _
  · cases patch with
    | error reason => exact .pure _
    | ok patch => exact .pure _

end Advisor

end Gleaner
