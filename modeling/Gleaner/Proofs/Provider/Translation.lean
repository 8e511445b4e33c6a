import Gleaner.Proofs.Harvest.Beside
import Gleaner.Proofs.Json.Embedded
import Gleaner.Proofs.Schema.Reading
import Gleaner.Provider.Basic

/-!
# What becomes of an exchange

A provider answers with a reply or with a fault of a model, of the kind that the outcome of the
exchange is due. It does not where something is taken for an object, or for an integer, before
anything has looked whether it is one, and where the answer cannot be taken off the wire.
-/

set_option autoImplicit false

namespace Gleaner

/-!
## Bodies
-/

namespace RawReply

/-- The body is an object whose first choice has a message. What the message is is left open. -/
structure Chosen (body : String) (whole choice : Fields) (message : Json) : Prop where
  read : readBody body = .ok (.obj whole)
  choices : ∃ rest, Entries.find? "choices" whole = some (.arr (.obj choice :: rest))
  message : Entries.find? "message" choice = some message

/-- The body has the form of a completion: its first choice has an object as its message, and its
usage is an object if it is told. -/
def Completes (body : String) : Prop :=
  ∃ whole choice message, Chosen body whole choice (.obj message) ∧
    ∀ usage, Entries.find? "usage" whole = some usage →
      usage = .null ∨ ∃ fields, usage = .obj fields

variable {body : String} {whole choice : Fields} {message : Json}

theorem Chosen.unique {otherWhole otherChoice : Fields} {otherMessage : Json}
    (chosen : Chosen body whole choice message)
    (other : Chosen body otherWhole otherChoice otherMessage) :
    otherWhole = whole ∧ otherChoice = choice ∧ otherMessage = message := by
  have same := chosen.read.symm.trans other.read
  cases same
  obtain ⟨rest, choices⟩ := chosen.choices
  obtain ⟨otherRest, otherChoices⟩ := other.choices
  have same := choices.symm.trans otherChoices
  cases same
  have same := chosen.message.symm.trans other.message
  cases same
  exact ⟨rfl, rfl, rfl⟩

theorem field_eq_ok {key : String} {value part : Json} :
    field key value = .ok part ↔
      ∃ fields, value = .obj fields ∧ Entries.find? key fields = some part := by
  cases value with
  | obj fields =>
      simp only [field, Json.obj.injEq, exists_eq_left']
      cases Entries.find? key fields <;> simp
  | _ => simp [field]

/-- The first part of a list is a value of its own; that of a text is a text. -/
theorem first_eq_ok {value part : Json} (taken : first value = .ok part) :
    (∃ rest, value = .arr (part :: rest)) ∨ ∃ text, part = .str text := by
  unfold first at taken
  split at taken
  · cases taken
    exact .inl ⟨_, rfl⟩
  · cases taken
  · split at taken
    · cases taken
      exact .inr ⟨_, rfl⟩
    · cases taken
  · cases taken
  · cases taken

/-- The parts of a body are found exactly if its first choice has a message. -/
theorem parts_eq_ok {value picked : Json} :
    parts body = .ok (value, picked, message) ↔
      ∃ whole choice, value = .obj whole ∧ picked = .obj choice ∧
        Chosen body whole choice message := by
  constructor
  · intro found
    obtain ⟨read, wasRead, found⟩ := Json.bind_ok found
    obtain ⟨choices, hadChoices, found⟩ := Json.bind_ok found
    obtain ⟨first, wasFirst, found⟩ := Json.bind_ok found
    obtain ⟨held, hadMessage, found⟩ := Json.bind_ok found
    cases found
    rw [mapError_eq_ok] at wasRead hadChoices hadMessage
    obtain ⟨choice, rfl, holds⟩ := field_eq_ok.mp hadMessage
    obtain ⟨rest, rfl⟩ | ⟨text, isText⟩ := first_eq_ok wasFirst
    · obtain ⟨whole, rfl, has⟩ := field_eq_ok.mp hadChoices
      exact ⟨whole, choice, rfl, rfl, wasRead, ⟨rest, has⟩, holds⟩
    · cases isText
  · rintro ⟨whole, choice, rfl, rfl, chosen⟩
    obtain ⟨rest, choices⟩ := chosen.choices
    simp [parts, chosen.read, field, choices, first, chosen.message, Except.mapError, bind,
      Except.bind, pure, Except.pure]

theorem fieldsOf_other {value : Json} (other : ∀ fields, value ≠ .obj fields) :
    ∃ name text, fieldsOf value = .error (.foreign name text) := by
  cases value with
  | obj fields => exact absurd rfl (other fields)
  | _ => exact ⟨_, _, rfl⟩

/-- A body without a message is malformed, and says so. -/
theorem read_unchosen (model : String)
    (none : ∀ whole choice message, ¬Chosen body whole choice message) :
    ∃ reason, read model body = .error (.invalidResponse reason (some body)) := by
  unfold read
  rcases found : parts body with reason | ⟨value, picked, message⟩
  · exact ⟨_, rfl⟩
  · obtain ⟨whole, choice, -, -, chosen⟩ := parts_eq_ok.mp found
    exact absurd chosen (none whole choice message)

/-- A message that is no object is a fault of its own. -/
theorem read_message (model : String) (chosen : Chosen body whole choice message)
    (other : ∀ fields, message ≠ .obj fields) :
    ∃ name text, read model body = .error (.foreign name text) := by
  obtain ⟨name, text, broke⟩ := fieldsOf_other other
  refine ⟨name, text, ?_⟩
  rw [read, parts_eq_ok.mpr ⟨whole, choice, rfl, rfl, chosen⟩]
  simp only [broke]
  rfl

/-- The reply that a message, its choice and the body around them make. -/
def held (model : String) (whole choice message usage : Fields) : RawReply where
  content := fieldOr "content" (.str "") message
  model := (Entries.find? "model" whole).getD (.str model)
  promptTokens := (Entries.find? "prompt_tokens" usage).getD (.int 0)
  completionTokens := (Entries.find? "completion_tokens" usage).getD (.int 0)
  totalTokens := (Entries.find? "total_tokens" usage).getD (.int 0)
  finish := fieldOr "finish_reason" (.str "stop") choice

/-- Where the message is an object only the usage is looked into further. -/
theorem read_chosen (model : String) {message : Fields}
    (chosen : Chosen body whole choice (.obj message)) :
    read model body =
      (fieldsOf (fieldOr "usage" (.obj []) whole)).map (held model whole choice message) := by
  rw [read, parts_eq_ok.mpr ⟨whole, choice, rfl, rfl, chosen⟩]
  show (fieldsOf (fieldOr "usage" (.obj []) whole) >>= fun usage =>
    pure (held model whole choice message usage)) = _
  cases fieldsOf (fieldOr "usage" (.obj []) whole) <;> rfl

/-- An object that is written in one line is read from a body as itself. -/
theorem readBody_write {fields : Fields} (keyed : Json.Keyed (.obj fields)) :
    readBody (Json.write (.obj fields)) = .ok (.obj fields) := by
  have begins := Json.write_begins fields
  have read := Json.read_write keyed
  unfold readBody
  generalize Json.write (.obj fields) = body at begins read
  dsimp only
  split
  next rest marked =>
      rw [marked] at begins
      cases begins
  next => rw [read]; rfl

/-- What the usage is taken for: an object if it is one, an empty one if it says nothing. -/
theorem fieldOr_cases (key : String) (fields : Fields) :
    (∃ value, Entries.find? key fields = some value ∧ value.truthy = true ∧
        fieldOr key (.obj []) fields = value) ∨
      (∀ value, Entries.find? key fields = some value → value.truthy = false) ∧
        fieldOr key (.obj []) fields = .obj [] := by
  unfold fieldOr
  cases found : Entries.find? key fields with
  | none => exact .inr ⟨nofun, rfl⟩
  | some value =>
      cases full : value.truthy with
      | true => exact .inl ⟨value, rfl, full, if_pos full⟩
      | false =>
          refine .inr ⟨?_, if_neg (by rw [full]; exact Bool.false_ne_true)⟩
          rintro _ ⟨⟩
          exact full

end RawReply

/-!
## Exchanges
-/

/-- What comes of sending a request. -/
abbrev Exchange := Except HttpFault HttpResponse

/-- What an exchange should come to: a reply, or a fault of this kind. For an answer that cannot be
taken off the wire any kind of fault of a model will do. -/
inductive Exchange.Due : Exchange → Option FaultKind → Prop where
  | unreached (message : String) : Due (.error (.unreachable message)) (some .modelConnection)
  | broken (name message : String) {kind : FaultKind} :
      kind.within .model = true → Due (.error (.broken name message)) (some kind)
  | unauthorized {response : HttpResponse} :
      response.status = 401 ∨ response.status = 403 → Due (.ok response) (some .modelAuthentication)
  | limited {response : HttpResponse} :
      response.status = 429 → Due (.ok response) (some .rateLimit)
  | failed {response : HttpResponse} :
      500 ≤ response.status → Due (.ok response) (some .modelConnection)
  | rejected {response : HttpResponse} :
      ¬(200 ≤ response.status ∧ response.status < 300) → response.status < 500 →
      response.status ∉ [401, 403, 429] → Due (.ok response) (some .model)
  | malformed {response : HttpResponse} :
      200 ≤ response.status → response.status < 300 → ¬RawReply.Completes response.body →
      Due (.ok response) (some .invalidResponse)
  | completed {response : HttpResponse} :
      200 ≤ response.status → response.status < 300 → RawReply.Completes response.body →
      Due (.ok response) none

/-- The result is a reply, or it is a fault of the kind. -/
def Meets (result : Except Fault RawReply) : Option FaultKind → Prop
  | none => ∃ reply, result = .ok reply
  | some kind => ∃ fault, result = .error fault ∧ fault.kind? = some kind

/-- The response asks to wait for a number of seconds in digits that make no integer: not all of
them are decimal, or they are too many. -/
def HttpResponse.Illegible (response : HttpResponse) : Prop :=
  ∃ text, response.header? "retry-after" = some text ∧ text ≠ "" ∧
    (∀ c ∈ text.toList, Text.isDigitSign c = true) ∧
    ((∃ c ∈ text.toList, Text.isDigit c = false) ∨ 4300 < text.length)

/-- Exchanges from which a fault comes that is of no kind of its own: an answer that cannot be taken
off the wire, a wait that cannot be read, and a message or a usage that is no object. -/
inductive Exchange.Slips : Exchange → Prop where
  | broken (name message : String) : Slips (.error (.broken name message))
  | wait {response : HttpResponse} :
      response.status = 429 → response.Illegible → Slips (.ok response)
  | message {response : HttpResponse} {whole choice : Fields} {message : Json} :
      200 ≤ response.status → response.status < 300 →
      RawReply.Chosen response.body whole choice message → (∀ fields, message ≠ .obj fields) →
      Slips (.ok response)
  | usage {response : HttpResponse} {whole choice message : Fields} {usage : Json} :
      200 ≤ response.status → response.status < 300 →
      RawReply.Chosen response.body whole choice (.obj message) →
      Entries.find? "usage" whole = some usage → usage.truthy = true →
      (∀ fields, usage ≠ .obj fields) → Slips (.ok response)

/-- Exchanges whose body does not have the form of a completion but passes for one: its usage is
false, a zero, an empty text or an empty list. -/
inductive Exchange.Passes : Exchange → Prop where
  | usage {response : HttpResponse} {whole choice message : Fields} {usage : Json} :
      200 ≤ response.status → response.status < 300 →
      RawReply.Chosen response.body whole choice (.obj message) →
      Entries.find? "usage" whole = some usage → usage.truthy = false → usage ≠ .null →
      (∀ fields, usage ≠ .obj fields) → Passes (.ok response)

namespace Provider

variable {σ : Type} (provider : Provider σ)

/-- The request for a completion. -/
def completionRequest (completion : Completion) : HttpRequest :=
  provider.request .post "v1/chat/completions" (some (.obj (provider.requestBody completion)))

/-- The response of an exchange, or the fault that a failure below HTTP is made into. -/
def responseOf : Exchange → Except Fault HttpResponse
  | .ok response => .ok response
  | .error (.unreachable message) =>
      .error (.plain .modelConnection ("Cannot reach " ++ provider.baseUrl ++ ": " ++ message) [])
  | .error (.broken name message) => .error (.foreign name message)
  | .error (.other fault) => .error fault

/-- What is made of a response. -/
def replyOf (completion : Completion) (response : HttpResponse) : Except Fault RawReply :=
  if response.succeeded then RawReply.read (provider.modelFor completion) response.body
  else .error (refusal response)

theorem exchange_apply (request : HttpRequest) (world : σ) :
    provider.exchange request world =
      (provider.responseOf (provider.transport.send request world).1,
        (provider.transport.send request world).2) := by
  have sent : (liftM (provider.transport.send request) : Action σ Exchange) world =
      (.ok (provider.transport.send request world).1,
        (provider.transport.send request world).2) := rfl
  rw [exchange, Action.bind_apply, sent]
  generalize (provider.transport.send request world).1 = exchange
  rcases exchange with (message | ⟨name, message⟩ | fault) | response <;> rfl

/-- One request is sent, and the result is what is made of the exchange. -/
theorem complete_apply (completion : Completion) (world : σ) :
    provider.complete completion world =
      (provider.responseOf (provider.transport.send (provider.completionRequest completion) world).1
          >>= provider.replyOf completion,
        (provider.transport.send (provider.completionRequest completion) world).2) := by
  have sent := provider.exchange_apply (provider.completionRequest completion) world
  rw [completionRequest] at sent ⊢
  rw [complete, Action.bind_apply, sent]
  generalize provider.responseOf _ = answered
  rcases answered with fault | response
  · rfl
  · dsimp only [replyOf, bind, Except.bind]
    cases response.succeeded with
    | false => rfl
    | true =>
        cases RawReply.read (provider.modelFor completion) response.body <;> rfl

theorem integerOf_cases (text : String) :
    ((∀ c ∈ text.toList, Text.isDigit c = true) ∧ text.length ≤ maxDigits ∧
        ∃ n, integerOf text = .ok n) ∨
      ((∃ c ∈ text.toList, Text.isDigit c = false) ∨ maxDigits < text.length) ∧
        ∃ reason, integerOf text = .error (.foreign "ValueError" reason) := by
  unfold integerOf
  cases decimal : text.toList.all Text.isDigit with
  | false => exact .inr ⟨.inl (by simpa using decimal), _, rfl⟩
  | true =>
      rcases Nat.lt_or_ge maxDigits text.length with long | short
      · exact .inr ⟨.inr long, _, if_pos long⟩
      · exact .inl ⟨by simpa using decimal, short, _, if_neg (Nat.not_lt.mpr short)⟩

/-- The wait that a response asks for is told unless it is illegible. -/
theorem waitOf_cases (response : HttpResponse) :
    (¬response.Illegible ∧ ∃ seconds, waitOf response = .ok seconds) ∨
      response.Illegible ∧ ∃ reason, waitOf response = .error (.foreign "ValueError" reason) := by
  unfold waitOf
  cases header : response.header? "retry-after" with
  | none =>
      refine .inl ⟨?_, _, rfl⟩
      rintro ⟨text, given, -⟩
      rw [header] at given
      cases given
  | some text =>
      by_cases signs : text ≠ "" ∧ ∀ c ∈ text.toList, Text.isDigitSign c = true
      · have taken : (text ≠ "" && text.toList.all Text.isDigitSign) = true := by simpa using signs
        dsimp only
        rw [if_pos taken]
        rcases integerOf_cases text with ⟨digits, short, n, read⟩ | ⟨illegible, reason, read⟩
        · refine .inl ⟨?_, some (.int n), by rw [read]; rfl⟩
          rintro ⟨other, given, -, -, sign | long⟩
          · rw [header] at given
            cases given
            obtain ⟨c, among, other⟩ := sign
            rw [digits c among] at other
            cases other
          · rw [header] at given
            cases given
            exact absurd short (Nat.not_le.mpr long)
        · exact .inr ⟨⟨text, header, signs.1, signs.2, illegible⟩, reason, by rw [read]; rfl⟩
      · have passed : ¬(text ≠ "" && text.toList.all Text.isDigitSign) = true := by
          simpa using signs
        refine .inl ⟨?_, none, if_neg passed⟩
        rintro ⟨other, given, some, all, -⟩
        rw [header] at given
        cases given
        exact signs ⟨some, all⟩

theorem complete_answered {completion : Completion} {world : σ} {response : HttpResponse}
    (sent :
      (provider.transport.send (provider.completionRequest completion) world).1 = .ok response) :
    (provider.complete completion world).1 = provider.replyOf completion response := by
  rw [complete_apply, sent]
  rfl

theorem succeeded_iff (response : HttpResponse) :
    response.succeeded = true ↔ 200 ≤ response.status ∧ response.status < 300 := by
  simp [HttpResponse.succeeded]

theorem replyOf_succeeded (completion : Completion) {response : HttpResponse}
    (low : 200 ≤ response.status) (high : response.status < 300) :
    provider.replyOf completion response =
      RawReply.read (provider.modelFor completion) response.body :=
  if_pos ((succeeded_iff response).mpr ⟨low, high⟩)

theorem replyOf_refused (completion : Completion) {response : HttpResponse}
    (refused : ¬(200 ≤ response.status ∧ response.status < 300)) :
    provider.replyOf completion response = .error (refusal response) :=
  if_neg ((succeeded_iff response).not.mpr refused)

/-- A refusal has the kind that its status is due, if it asks for no wait that is illegible. -/
theorem refusal_due {response : HttpResponse}
    (refused : ¬(200 ≤ response.status ∧ response.status < 300))
    (clear : ¬(response.status = 429 ∧ response.Illegible)) :
    ∃ kind, (refusal response).kind? = some kind ∧ Exchange.Due (.ok response) (some kind) := by
  unfold refusal
  by_cases unauthorized : response.status = 401 ∨ response.status = 403
  · rw [if_pos (by simpa using unauthorized)]
    exact ⟨_, rfl, .unauthorized unauthorized⟩
  · rw [if_neg (by simpa using unauthorized)]
    by_cases limited : response.status = 429
    · rw [if_pos limited]
      rcases waitOf_cases response with ⟨-, seconds, told⟩ | ⟨illegible, -⟩
      · rw [told]
        exact ⟨_, rfl, .limited limited⟩
      · exact absurd ⟨limited, illegible⟩ clear
    · rw [if_neg limited]
      by_cases broken : 500 ≤ response.status
      · rw [if_pos broken]
        exact ⟨_, rfl, .failed broken⟩
      · rw [if_neg broken]
        exact ⟨_, rfl, .rejected refused (by omega) (by simp; omega)⟩

variable (completion : Completion)

theorem foreign_of_slips {exchange : Exchange} (slips : exchange.Slips) :
    ∃ name text, (provider.responseOf exchange >>= provider.replyOf completion) =
      .error (.foreign name text) := by
  cases slips with
  | broken name message => exact ⟨name, message, rfl⟩
  | @wait response limited illegible =>
      show ∃ name text, provider.replyOf completion response = .error (.foreign name text)
      rw [replyOf_refused provider completion (by omega), refusal, if_neg (by simp [limited]),
        if_pos limited]
      rcases waitOf_cases response with ⟨legible, -⟩ | ⟨-, reason, told⟩
      · exact absurd illegible legible
      · exact ⟨_, reason, by rw [told]⟩
  | @message response whole choice message low high chosen other =>
      show ∃ name text, provider.replyOf completion response = .error (.foreign name text)
      rw [replyOf_succeeded provider completion low high]
      exact RawReply.read_message _ chosen other
  | @usage response whole choice message usage low high chosen told full other =>
      show ∃ name text, provider.replyOf completion response = .error (.foreign name text)
      rw [replyOf_succeeded provider completion low high, RawReply.read_chosen _ chosen]
      obtain ⟨value, found, -, taken⟩ | ⟨empty, -⟩ := RawReply.fieldOr_cases "usage" whole
      · rw [told] at found
        cases found
        obtain ⟨name, text, broke⟩ := RawReply.fieldsOf_other other
        exact ⟨name, text, by rw [taken, broke]; rfl⟩
      · rw [empty usage told] at full
        cases full

theorem ok_of_passes {exchange : Exchange} (passes : exchange.Passes) :
    ∃ reply, (provider.responseOf exchange >>= provider.replyOf completion) = .ok reply := by
  obtain @⟨response, whole, choice, message, usage, low, high, chosen, told, empty, -, -⟩ := passes
  show ∃ reply, provider.replyOf completion response = .ok reply
  rw [replyOf_succeeded provider completion low high, RawReply.read_chosen _ chosen]
  obtain ⟨value, found, full, -⟩ | ⟨-, taken⟩ := RawReply.fieldOr_cases "usage" whole
  · rw [told] at found
    cases found
    rw [empty] at full
    cases full
  · exact ⟨_, by rw [taken]; rfl⟩

/-- A body with a message is read by its form, if what is no object is not taken for one. -/
theorem read_due {response : HttpResponse} (low : 200 ≤ response.status)
    (high : response.status < 300) (careful : ¬Exchange.Slips (.ok response))
    (strict : ¬Exchange.Passes (.ok response)) (model : String) :
    ∃ kind, Exchange.Due (.ok response) kind ∧ Meets (RawReply.read model response.body) kind := by
  by_cases said : ∃ whole choice message, RawReply.Chosen response.body whole choice message
  · obtain ⟨whole, choice, message, chosen⟩ := said
    obtain ⟨message, rfl⟩ : ∃ fields, message = .obj fields := by
      by_contra other
      exact careful (.message low high chosen (not_exists.mp other))
    have form (usage : Json) (told : Entries.find? "usage" whole = some usage) :
        usage = .null ∨ ∃ fields, usage = .obj fields := by
      by_contra other
      rw [not_or, not_exists] at other
      cases full : usage.truthy with
      | true => exact careful (.usage low high chosen told full other.2)
      | false => exact strict (.usage low high chosen told full other.1 other.2)
    refine ⟨none, .completed low high ⟨whole, choice, message, chosen, form⟩, ?_⟩
    rw [RawReply.read_chosen _ chosen]
    obtain ⟨value, told, full, taken⟩ | ⟨-, taken⟩ := RawReply.fieldOr_cases "usage" whole
    · rcases form value told with rfl | ⟨fields, rfl⟩
      · cases full
      · exact ⟨_, by rw [taken]; rfl⟩
    · exact ⟨_, by rw [taken]; rfl⟩
  · have silent : ∀ whole choice message, ¬RawReply.Chosen response.body whole choice message :=
      fun whole choice message chosen => said ⟨whole, choice, message, chosen⟩
    refine ⟨_, .malformed low high ?_, ?_⟩
    · rintro ⟨whole, choice, message, chosen, -⟩
      exact silent whole choice _ chosen
    · obtain ⟨reason, broke⟩ := RawReply.read_unchosen model silent
      exact ⟨_, broke, rfl⟩

theorem meets_due {exchange : Exchange} (own : ∀ fault, exchange ≠ .error (.other fault))
    (careful : ¬exchange.Slips) (strict : ¬exchange.Passes) :
    ∃ kind, exchange.Due kind ∧
      Meets (provider.responseOf exchange >>= provider.replyOf completion) kind := by
  rcases exchange with (message | ⟨name, message⟩ | fault) | response
  · exact ⟨_, .unreached message, _, rfl, rfl⟩
  · exact absurd (.broken name message) careful
  · exact absurd rfl (own fault)
  · show ∃ kind, Exchange.Due (.ok response) kind ∧
      Meets (provider.replyOf completion response) kind
    by_cases succeeded : 200 ≤ response.status ∧ response.status < 300
    · rw [replyOf_succeeded provider completion succeeded.1 succeeded.2]
      exact read_due succeeded.1 succeeded.2 careful strict _
    · rw [replyOf_refused provider completion succeeded]
      obtain ⟨kind, told, due⟩ := refusal_due succeeded fun wait => careful (.wait wait.1 wait.2)
      exact ⟨_, due, _, rfl, told⟩

/-- A completion is one exchange. Its result is a reply, or a fault of the kind that the exchange is
due, except in these cases: where the exchange slips through, what comes of it is a fault of no
kind, and a body whose usage is empty but no object is taken for a completion. -/
theorem complete_translates (world : σ) :
    (provider.complete completion world).2 =
        (provider.transport.send (provider.completionRequest completion) world).2 ∧
      ∀ exchange : Exchange,
        (provider.transport.send (provider.completionRequest completion) world).1 = exchange →
        (∀ fault, exchange ≠ .error (.other fault)) →
        ((∃ kind, exchange.Due kind ∧ Meets (provider.complete completion world).1 kind) ↔
          ¬exchange.Slips ∧ ¬exchange.Passes) ∧
        (exchange.Slips →
          ∃ name text, (provider.complete completion world).1 = .error (.foreign name text)) ∧
        (exchange.Passes → ∃ reply, (provider.complete completion world).1 = .ok reply) := by
  rw [complete_apply]
  refine ⟨rfl, ?_⟩
  rintro exchange sent own
  simp only [sent]
  refine ⟨⟨?_, fun fine => provider.meets_due completion own fine.1 fine.2⟩,
    provider.foreign_of_slips completion, provider.ok_of_passes completion⟩
  rintro ⟨kind, due, meets⟩
  constructor
  · intro slips
    obtain ⟨name, text, broke⟩ := provider.foreign_of_slips completion slips
    rw [broke] at meets
    cases kind with
    | none =>
        obtain ⟨reply, made⟩ := meets
        cases made
    | some kind =>
        obtain ⟨fault, same, kinded⟩ := meets
        cases same
        cases kinded
  · intro passes
    obtain ⟨reply, made⟩ := provider.ok_of_passes completion passes
    rw [made] at meets
    cases kind with
    | some kind =>
        obtain ⟨fault, same, -⟩ := meets
        cases same
    | none =>
        cases due with
        | completed low high completes =>
            obtain ⟨whole, choice, message, chosen, form⟩ := completes
            obtain @⟨_, _, _, _, usage, _, _, other, told, _, some, noObject⟩ := passes
            obtain ⟨rfl, rfl, -⟩ := chosen.unique other
            rcases form usage told with rfl | ⟨fields, rfl⟩
            · exact some rfl
            · exact noObject fields rfl

end Provider

/-!
## A message that is null
-/

namespace Provider

/-- A body whose only choice has null for its message. -/
def mutedBody : Fields :=
  [("choices", .arr [.obj [("message", .null)]])]

/-- A host that answers with that body. -/
def muted : Provider Unit where
  baseUrl := "https://llm.test"
  apiKey := noKey
  model := "gpt-test"
  transport := { send := fun _ _ => (.ok { body := Json.write (.obj mutedBody) }, ()) }

theorem muted_chosen :
    RawReply.Chosen (Json.write (.obj mutedBody)) mutedBody [("message", .null)] .null where
  read := by
    have message : Json.Keyed (.obj [("message", .null)]) :=
      .obj (by decide) (List.forall_mem_singleton.mpr .null)
    exact RawReply.readBody_write
      (.obj (by decide)
        (List.forall_mem_singleton.mpr (.arr (List.forall_mem_singleton.mpr message))))
  choices := ⟨[], rfl⟩
  message := rfl

/-- What a host is asked for. -/
def greeting : Completion where
  messages := [⟨.user, "Hello"⟩]

theorem muted_sent :
    muted.transport.send (muted.completionRequest greeting) () =
      (.ok { body := Json.write (.obj mutedBody) }, ()) :=
  rfl

theorem muted_slips : Exchange.Slips (.ok { body := Json.write (.obj mutedBody) }) :=
  .message (by decide) (by decide) muted_chosen nofun

/-- What comes of the exchange with the host is no fault of a model. -/
theorem complete_translates_muted :
    (∀ fault, (muted.transport.send (muted.completionRequest greeting) ()).1 ≠
        .error (.other fault)) ∧
      Exchange.Slips (muted.transport.send (muted.completionRequest greeting) ()).1 ∧
      ∃ name text, (muted.complete greeting ()).1 = .error (.foreign name text) := by
  have slips : Exchange.Slips (muted.transport.send (muted.completionRequest greeting) ()).1 := by
    rw [muted_sent]
    exact muted_slips
  have own : ∀ fault, (muted.transport.send (muted.completionRequest greeting) ()).1 ≠
      .error (.other fault) := by
    rw [muted_sent]
    exact nofun
  exact ⟨own, slips, ((muted.complete_translates greeting ()).2 _ rfl own).2.1 slips⟩

theorem muted_complete :
    (muted.complete greeting ()).1 =
      .error (.foreign "AttributeError" "'NoneType' object has no attribute 'get'") := by
  have read : RawReply.read (muted.modelFor greeting) (Json.write (.obj mutedBody)) =
      .error (.foreign "AttributeError" "'NoneType' object has no attribute 'get'") := by
    rw [RawReply.read, RawReply.parts_eq_ok.mpr ⟨_, _, rfl, rfl, muted_chosen⟩]
    rfl
  have sent := congrArg Prod.fst muted_sent
  rw [muted.complete_answered sent, muted.replyOf_succeeded greeting (by decide) (by decide)]
  exact read

/-- It is due that the body is told to be malformed, and what comes is a fault of no kind. -/
theorem muted_misses :
    Exchange.Due (muted.transport.send (muted.completionRequest greeting) ()).1
        (some .invalidResponse) ∧
      (muted.complete greeting ()).1 =
        .error (.foreign "AttributeError" "'NoneType' object has no attribute 'get'") ∧
      ¬∃ kind, Exchange.Due (muted.transport.send (muted.completionRequest greeting) ()).1 kind ∧
          Meets (muted.complete greeting ()).1 kind := by
  have due :
      Exchange.Due (.ok { body := Json.write (.obj mutedBody) }) (some .invalidResponse) := by
    refine .malformed (by decide) (by decide) ?_
    rintro ⟨whole, choice, message, chosen, -⟩
    cases (muted_chosen.unique chosen).2.2
  rw [muted_sent, muted_complete]
  refine ⟨due, rfl, ?_⟩
  rintro ⟨kind | kind, -, meets⟩
  · obtain ⟨reply, same⟩ := meets
    cases same
  · obtain ⟨fault, same, kinded⟩ := meets
    cases same
    cases kinded

end Provider

end Gleaner
