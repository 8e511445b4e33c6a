import Gleaner.Proofs.Harvest.Beside
import Gleaner.Proofs.Json.Figures
import Gleaner.Proofs.Json.Keyed
import Gleaner.Proofs.Schema.Reading

/-!
# Structuring items

The model is asked about each item once, in order. Whatever it answers, the items that it gave
an object for have their jobs in the end, in the same order, and no other item has one.

A job is read from an object that has the form of one, and else from the texts of its plain
values. The second reading cannot fail, and no field that says something is lost in it.
-/

set_option autoImplicit false

namespace Gleaner

namespace Json

/-- A value that says something by itself: a number, or a text that is not empty. -/
inductive Telling : Json → Prop
  | text {words : String} (nonempty : words ≠ "") : Telling (.str words)
  | int (n : Int) : Telling (.int n)
  | float (x : Float) : Telling (.float x)

end Json

theorem Decimal.Layout.place_ne_empty (layout : Layout) (d : Digits) : layout.place d ≠ "" := by
  unfold place
  dsimp only
  split
  · decide
  · split
    · split <;> [skip; split] <;> simp [String.append_eq_empty_iff]
    · split <;> simp [String.append_eq_empty_iff]

theorem Decimal.Layout.literal_ne_empty (x : Float) : literal.text x ≠ "" := by
  unfold text
  split
  · exact fun empty => place_ne_empty _ _ (String.append_eq_empty_iff.mp empty).2
  · repeat' split
    all_goals decide

theorem Json.Telling.bareText_ne_empty {value : Json} (telling : Telling value) :
    value.bareText ≠ "" := by
  cases telling with
  | text nonempty => exact nonempty
  | int n => exact fun empty => (word_int n).ne_nil (congrArg String.toList empty)
  | float x => exact Decimal.Layout.literal_ne_empty x

namespace Entries

variable {α β : Type}

/-- Of entries with each key once, a choice among the values is found where the value was. -/
theorem find?_filterMap (choose : α → Option β) (key : String) {entries : Entries α}
    (once : (entries.map (·.1)).Nodup) :
    find? key (entries.filterMap fun entry => (choose entry.2).map (entry.1, ·)) =
      (find? key entries).bind choose := by
  induction entries with
  | nil => rfl
  | cons entry rest ih =>
      obtain ⟨k, v⟩ := entry
      obtain ⟨fresh, others⟩ := List.nodup_cons.mp once
      have rest := ih others
      by_cases same : k = key
      · subst same
        rw [find?_eq_none fresh] at rest
        cases chosen : choose v <;> simp [find?, chosen, rest]
      · cases chosen : choose v <;> simp [find?, chosen, same, rest]

end Entries

namespace FieldName

/-- A field is given under just one of its spellings. -/
def GivenOnce (name : FieldName) (fields : Fields) (value : Json) : Prop :=
  ∃ spelling ∈ name.spellings, Entries.find? spelling fields = some value ∧
    ∀ other ∈ name.spellings, other ≠ spelling → Entries.find? other fields = none

theorem GivenOnce.value? {name : FieldName} {fields : Fields} {value : Json}
    (given : name.GivenOnce fields value) : name.value? fields = some value := by
  obtain ⟨spelling, among, found, alone⟩ := given
  unfold FieldName.value?
  revert among alone
  generalize name.spellings = spellings
  intro among alone
  induction spellings with
  | nil => cases among
  | cons first rest ih =>
      rw [List.findSome?_cons]
      by_cases same : first = spelling
      · rw [same, found]
      · rw [alone first List.mem_cons_self same]
        refine ih ?_ fun other later => alone other (List.mem_cons_of_mem _ later)
        exact (List.mem_cons.mp among).resolve_left (Ne.symm same)

end FieldName

namespace Job

/-- A part of a job that an object may give: the field it stands in, and what the job has of it. -/
structure Place where
  name : FieldName
  get : Job → Option String

/-- Every part but the id of the item, which is never the object's to give. -/
def places : List Place :=
  [⟨"title", fun job => some job.title⟩, ⟨"company", fun job => some job.company⟩,
    ⟨"location", Job.location⟩, ⟨"salary", Job.salary⟩,
    ⟨⟨"jobType", ["job_type"]⟩, Job.jobType⟩,
    ⟨⟨"experienceLevel", ["experience_level"]⟩, Job.experienceLevel⟩,
    ⟨⟨"jobId", ["job_id"]⟩, Job.jobId⟩, ⟨"description", Job.description⟩,
    ⟨⟨"postedTime", ["posted_time"]⟩, Job.postedTime⟩]

variable {fields raw : Fields} {job : Job}

/-!
## What is read
-/

/-- A part of a job that need not be there reads as what stands in its field. -/
abbrev PartReads (fields : Fields) (name : FieldName) (part : Option String) : Prop :=
  fields.Reads name none (Reading.orNull Reading.string) part

/-- Each part of a job reads as what stands in its field. -/
structure EachReads (fields : Fields) (job : Job) : Prop where
  title : fields.Reads "title" "Unknown" Reading.string job.title
  company : fields.Reads "company" "Unknown" Reading.string job.company
  location : PartReads fields "location" job.location
  salary : PartReads fields "salary" job.salary
  jobType : PartReads fields ⟨"jobType", ["job_type"]⟩ job.jobType
  experienceLevel : PartReads fields ⟨"experienceLevel", ["experience_level"]⟩ job.experienceLevel
  jobId : PartReads fields ⟨"jobId", ["job_id"]⟩ job.jobId
  description : PartReads fields "description" job.description
  postedTime : PartReads fields ⟨"postedTime", ["posted_time"]⟩ job.postedTime
  sourceId : PartReads fields ⟨"sourceId", ["source_id"]⟩ job.sourceId

theorem ofFields_eq_ok : ofFields fields = .ok job ↔ EachReads fields job := by
  simp only [ofFields, text?, Checked.seq_eq_ok, Checked.map_eq_ok, Fields.optional_eq_ok]
  constructor
  · rintro ⟨_, _, ⟨_, _, ⟨_, _, ⟨_, _, ⟨_, _, ⟨_, _, ⟨_, _, ⟨_, _, ⟨_, _, ⟨_, title, rfl⟩, company,
      rfl⟩, location, rfl⟩, salary, rfl⟩, jobType, rfl⟩, level, rfl⟩, id, rfl⟩, description, rfl⟩,
      posted, rfl⟩, source, rfl⟩
    exact ⟨title, company, location, salary, jobType, level, id, description, posted, source⟩
  · rintro ⟨title, company, location, salary, jobType, level, id, description, posted, source⟩
    exact ⟨_, _, ⟨_, _, ⟨_, _, ⟨_, _, ⟨_, _, ⟨_, _, ⟨_, _, ⟨_, _, ⟨_, _, ⟨_, title, rfl⟩, company,
      rfl⟩, location, rfl⟩, salary, rfl⟩, jobType, rfl⟩, level, rfl⟩, id, rfl⟩, description, rfl⟩,
      posted, rfl⟩, source, rfl⟩

/-- What a part of a job is read from: null says nothing, and anything else is a text. -/
def ReadFrom (value : Json) (part : Option String) : Prop :=
  value = .null ∧ part = none ∨ ∃ text, value = .str text ∧ part = some text

theorem readFrom_of_reads {name : FieldName} {value : Json} {part : Option String}
    (reads : PartReads fields name part)
    (found : name.value? fields = some value) : ReadFrom value part := by
  have made := (Fields.Reads.given found).mp reads
  cases value with
  | null => exact .inl ⟨rfl, (Except.ok.inj made).symm⟩
  | _ =>
      obtain ⟨text, same, isText⟩ := Reading.orNull_eq_ok made rfl
      exact .inr ⟨text, Reading.string_eq_ok.mp isText, same⟩

theorem readFrom_of_reads_text {name : FieldName} {value : Json} {text default : String}
    (reads : Fields.Reads fields name default Reading.string text)
    (found : name.value? fields = some value) : ReadFrom value (some text) :=
  .inr ⟨text, Reading.string_eq_ok.mp ((Fields.Reads.given found).mp reads), rfl⟩

theorem readFrom_of_ofFields (made : ofFields fields = .ok job) :
    ∀ place ∈ places, ∀ value, place.name.value? fields = some value →
      ReadFrom value (place.get job) := by
  have each := ofFields_eq_ok.mp made
  simp only [places, List.forall_mem_cons]
  exact ⟨fun _ => readFrom_of_reads_text each.title, fun _ => readFrom_of_reads_text each.company,
    fun _ => readFrom_of_reads each.location, fun _ => readFrom_of_reads each.salary,
    fun _ => readFrom_of_reads each.jobType, fun _ => readFrom_of_reads each.experienceLevel,
    fun _ => readFrom_of_reads each.jobId, fun _ => readFrom_of_reads each.description,
    fun _ => readFrom_of_reads each.postedTime, List.forall_mem_nil _⟩

/-- Of an object that reads as a job, a part that says something is the job's. -/
theorem get_of_ofFields (made : ofFields fields = .ok job) {place : Place}
    (among : place ∈ places) {value : Json} (given : place.name.GivenOnce fields value)
    (telling : value.Telling) : place.get job = some value.bareText := by
  rcases readFrom_of_ofFields made place among value given.value? with
    ⟨rfl, -⟩ | ⟨text, rfl, same⟩
  · cases telling
  · exact same

/-!
## Objects of texts
-/

/-- An object has nothing but texts. -/
def AllTexts (fields : Fields) : Prop :=
  ∀ entry ∈ fields, ∃ text, entry.2 = .str text

theorem AllTexts.value? (texts : AllTexts fields) {name : FieldName} {value : Json}
    (found : name.value? fields = some value) : ∃ text, value = .str text := by
  obtain ⟨spelling, -, found⟩ := List.exists_of_findSome?_eq_some found
  exact texts _ (Entries.mem_of_find? found)

theorem AllTexts.text_ok (texts : AllTexts fields) (name : FieldName) (default : String) :
    ∃ text, Fields.Reads fields name default Reading.string text := by
  cases found : name.value? fields with
  | none => exact ⟨default, .missing found⟩
  | some value =>
      obtain ⟨text, rfl⟩ := texts.value? found
      exact ⟨text, (Fields.Reads.given found).mpr rfl⟩

theorem AllTexts.text?_ok (texts : AllTexts fields) (name : FieldName) :
    ∃ part, PartReads fields name part := by
  cases found : name.value? fields with
  | none => exact ⟨none, .missing found⟩
  | some value =>
      obtain ⟨text, rfl⟩ := texts.value? found
      exact ⟨some text, (Fields.Reads.given found).mpr rfl⟩

theorem AllTexts.ofFields_ok (texts : AllTexts fields) : ∃ job, ofFields fields = .ok job := by
  obtain ⟨title, hasTitle⟩ := texts.text_ok "title" "Unknown"
  obtain ⟨company, hasCompany⟩ := texts.text_ok "company" "Unknown"
  obtain ⟨location, hasLocation⟩ := texts.text?_ok "location"
  obtain ⟨salary, hasSalary⟩ := texts.text?_ok "salary"
  obtain ⟨jobType, hasType⟩ := texts.text?_ok ⟨"jobType", ["job_type"]⟩
  obtain ⟨level, hasLevel⟩ := texts.text?_ok ⟨"experienceLevel", ["experience_level"]⟩
  obtain ⟨jobId, hasId⟩ := texts.text?_ok ⟨"jobId", ["job_id"]⟩
  obtain ⟨description, hasDescription⟩ := texts.text?_ok "description"
  obtain ⟨posted, hasPosted⟩ := texts.text?_ok ⟨"postedTime", ["posted_time"]⟩
  obtain ⟨source, hasSource⟩ := texts.text?_ok ⟨"sourceId", ["source_id"]⟩
  exact ⟨⟨title, company, location, salary, jobType, level, jobId, description, posted, source⟩,
    ofFields_eq_ok.mpr ⟨hasTitle, hasCompany, hasLocation, hasSalary, hasType, hasLevel, hasId,
      hasDescription, hasPosted, hasSource⟩⟩

/-!
## Texts of plain values
-/

theorem plainText?_of_telling {value : Json} (telling : value.Telling) :
    plainText? value = some value.bareText := by
  cases telling with
  | @text words nonempty =>
      unfold plainText?
      split
      next impossible => cases impossible
      next empty => exact absurd (Json.str.inj empty) nonempty
      next impossible => cases impossible
      next impossible => cases impossible
      next => rfl
  | int n => rfl
  | float x => rfl

theorem plainText?_ne_empty {value : Json} {text : String} (plain : plainText? value = some text) :
    text ≠ "" := by
  unfold plainText? at plain
  split at plain
  next => cases plain
  next => cases plain
  next => cases plain
  next => cases plain
  next notNull notEmpty notList notObject =>
    cases plain
    cases value with
    | null => exact absurd rfl notNull
    | bool b => cases b <;> decide
    | int n => exact (Json.Telling.int n).bareText_ne_empty
    | float x => exact (Json.Telling.float x).bareText_ne_empty
    | str words => exact fun empty => notEmpty (congrArg Json.str empty)
    | arr items => exact absurd rfl (notList items)
    | obj fields => exact absurd rfl (notObject fields)

theorem plainTexts_allTexts (raw : Fields) : AllTexts (plainTexts raw) := by
  intro entry among
  obtain ⟨⟨key, value⟩, -, chosen⟩ := List.mem_filterMap.mp among
  obtain ⟨text, -, rfl⟩ := Option.map_eq_some_iff.mp chosen
  exact ⟨text, rfl⟩

theorem find?_plainTexts (once : (raw.map (·.1)).Nodup) (key : String) :
    Entries.find? key (plainTexts raw) =
      (Entries.find? key raw).bind fun value => (plainText? value).map .str := by
  rw [← Entries.find?_filterMap _ key once]
  simp only [plainTexts, Option.map_map, Function.comp_def]

/-- What is given once and says something is given once as a text. -/
theorem givenOnce_plainTexts (once : (raw.map (·.1)).Nodup) {name : FieldName} {value : Json}
    (given : name.GivenOnce raw value) (telling : value.Telling) :
    name.GivenOnce (plainTexts raw) (.str value.bareText) := by
  obtain ⟨spelling, among, found, alone⟩ := given
  refine ⟨spelling, among, ?_, fun other spelled differs => ?_⟩
  · rw [find?_plainTexts once, found, Option.bind_some, plainText?_of_telling telling]
    rfl
  · rw [find?_plainTexts once, alone other spelled differs]
    rfl

/-!
## The two readings
-/

/-- An object always gives a job. -/
theorem ofRaw_ok (raw : Fields) : ∃ job, ofRaw raw = .ok job := by
  unfold ofRaw
  cases ofFields raw with
  | ok job => exact ⟨job, rfl⟩
  | error problems => exact (plainTexts_allTexts raw).ofFields_ok

/-- A part that is given once and says something survives, as a text. -/
theorem get_of_ofRaw (once : (raw.map (·.1)).Nodup) (made : ofRaw raw = .ok job) {place : Place}
    (among : place ∈ places) {value : Json} (given : place.name.GivenOnce raw value)
    (telling : value.Telling) : place.get job = some value.bareText := by
  unfold ofRaw at made
  split at made
  next valid =>
    cases made
    exact get_of_ofFields valid among given telling
  next =>
    have asText := givenOnce_plainTexts once given telling
    have kept := get_of_ofFields made among asText (.text telling.bareText_ne_empty)
    exact kept

/-!
## What a job is settled to be
-/

variable {itemId : String}

/-- The id that an object gives for its job, as a text. If the object has the form of a job, the
second spelling of the id does not count where the first one is there. -/
def givenId? (raw : Fields) : Option String :=
  let wire := (Entries.find? "jobId" raw).bind plainText?
  let other := (Entries.find? "job_id" raw).bind plainText?
  if (ofFields raw).isOk ∧ (Entries.find? "jobId" raw).isSome then wire else wire.or other

/-- What the job of an item is that an object was given for. -/
structure Settled (item : Item) (raw : Fields) (job : Job) : Prop where
  source : job.sourceId = some item.id
  title : job.title ≠ ""
  company : job.company ≠ ""
  id : job.jobId = some ((givenId? raw).getD item.id)
  /-- A field that is given under one spelling, as a number or as a text that is not empty, is
  there as a text. -/
  kept {place : Place} (among : place ∈ places) {value : Json}
    (given : place.name.GivenOnce raw value) (telling : value.Telling) :
    place.get job = some value.bareText

/-!
## The id
-/

theorem plainText?_str (text : String) : plainText? (.str text) = (some text).filter (· ≠ "") := by
  by_cases empty : text = ""
  · subst empty
    rfl
  · rw [plainText?_of_telling (.text empty), Option.filter_some, if_pos (decide_eq_true empty)]
    rfl

theorem value?_jobId (fields : Fields) :
    FieldName.value? ⟨"jobId", ["job_id"]⟩ fields =
      (Entries.find? "jobId" fields).or (Entries.find? "job_id" fields) := by
  have spelled : FieldName.spellings ⟨"jobId", ["job_id"]⟩ = ["jobId", "job_id"] := rfl
  rw [FieldName.value?, spelled, List.findSome?_cons, List.findSome?_cons, List.findSome?_nil]
  cases Entries.find? "jobId" fields with
  | some value => rfl
  | none => cases Entries.find? "job_id" fields <;> rfl

/-- What a job read from an object has for its id, if that says something. -/
theorem jobId_of_ofFields {fields : Fields} (made : ofFields fields = .ok job) :
    job.jobId.filter (· ≠ "") =
      ((Entries.find? "jobId" fields).or (Entries.find? "job_id" fields)).bind plainText? := by
  have reads := (ofFields_eq_ok.mp made).jobId
  rw [← value?_jobId]
  cases found : FieldName.value? ⟨"jobId", ["job_id"]⟩ fields with
  | none =>
      have missing : job.jobId = none :=
        (Except.ok.inj ((Fields.Reads.missing found).symm.trans reads)).symm
      rw [missing]
      rfl
  | some value =>
      rcases readFrom_of_reads reads found with ⟨rfl, same⟩ | ⟨text, rfl, same⟩
      · rw [same]
        rfl
      · rw [same, Option.bind_some, plainText?_str]

theorem plainText?_asText (value : Json) :
    ((plainText? value).map Json.str).bind plainText? = plainText? value := by
  cases plain : plainText? value with
  | none => rfl
  | some text =>
      have telling : (Json.str text).Telling := .text (plainText?_ne_empty plain)
      exact plainText?_of_telling telling

/-- What the job of an object has for its id is what the object gives for one. -/
theorem jobId_of_ofRaw (once : (raw.map (·.1)).Nodup) (made : ofRaw raw = .ok job) :
    job.jobId.filter (· ≠ "") = givenId? raw := by
  unfold ofRaw at made
  unfold givenId?
  dsimp only
  cases valid : ofFields raw with
  | ok read =>
      rw [valid] at made
      cases made
      rw [jobId_of_ofFields valid]
      cases found : Entries.find? "jobId" raw with
      | some value => simp [Except.isOk, Except.toBool]
      | none => simp
  | error problems =>
      rw [valid] at made
      rw [jobId_of_ofFields made, find?_plainTexts once, find?_plainTexts once]
      have notOk : ¬((Except.error problems : Checked Job).isOk ∧
          (Entries.find? "jobId" raw).isSome) := fun both => nomatch both.1
      rw [if_neg notOk]
      cases Entries.find? "jobId" raw with
      | none =>
          cases Entries.find? "job_id" raw with
          | none => rfl
          | some other => exact plainText?_asText other
      | some wire =>
          cases plain : plainText? wire with
          | some text =>
              have telling : (Json.str text).Telling := .text (plainText?_ne_empty plain)
              simp only [Option.bind_some, plain, Option.map_some, Option.some_or]
              exact plainText?_of_telling telling
          | none =>
              cases Entries.find? "job_id" raw with
              | none => simp [plain]
              | some other => simpa [plain] using plainText?_asText other

/-!
## Jobs of items
-/

theorem jobId_settle : (job.settle itemId).jobId =
    some ((job.jobId.filter (· ≠ "")).getD itemId) := by
  unfold settle
  cases job.jobId with
  | none => rfl
  | some id =>
      by_cases empty : id = ""
      · subst empty
        rfl
      · rw [Option.filter_some, if_pos (decide_eq_true empty)]
        simp

/-- Settling a job changes no part of it that says something. -/
theorem get_settle {place : Place} (among : place ∈ places) {text : String}
    (has : place.get job = some text) (nonempty : text ≠ "") :
    place.get (job.settle itemId) = some text := by
  revert place
  simp only [places, List.forall_mem_cons]
  refine ⟨fun has => ?_, fun has => ?_, id, id, id, id, fun has => ?_, id, id,
    List.forall_mem_nil _⟩
  · cases has
    exact congrArg some (if_neg nonempty)
  · cases has
    exact congrArg some (if_neg nonempty)
  · have kept : (some text).filter (· ≠ "") = some text := by simp [nonempty]
    rw [jobId_settle, has, kept]
    rfl

theorem title_settle : (job.settle itemId).title ≠ "" := by
  unfold settle
  dsimp only
  split
  · decide
  · assumption

theorem company_settle : (job.settle itemId).company ≠ "" := by
  unfold settle
  dsimp only
  split
  · decide
  · assumption

theorem ofAnswer_none {answer : String} (found : Json.firstObject? answer = none) :
    ofAnswer itemId answer = .ok none := by
  unfold ofAnswer
  rw [found]

theorem ofAnswer_some {answer : String} (found : Json.firstObject? answer = some raw)
    (made : ofRaw raw = .ok job) : ofAnswer itemId answer = .ok (some (job.settle itemId)) := by
  unfold ofAnswer
  rw [found]
  dsimp only
  rw [made]
  rfl

theorem settled_of_ofRaw {item : Item} (once : (raw.map (·.1)).Nodup)
    (made : ofRaw raw = .ok job) : Settled item raw (job.settle item.id) where
  source := rfl
  title := title_settle
  company := company_settle
  id := by rw [jobId_settle, jobId_of_ofRaw once made]
  kept among _ given telling :=
    get_settle among (get_of_ofRaw once made among given telling) telling.bareText_ne_empty

end Job

namespace JobExtractor

variable {σ : Type} (extractor : JobExtractor σ)

/-- What comes of asking about an item: nothing if the model fails or if no object starts anywhere
in its reply, and otherwise the job of the first object there is. -/
inductive Gives (item : Item) (world : σ) : Option Job → σ → Prop
  | failed {fault : Fault} {after : σ}
      (asked : extractor.model.complete (extractor.question item) world = (.error fault, after)) :
      Gives item world none after
  | silent {reply : Reply} {after : σ}
      (asked : extractor.model.complete (extractor.question item) world = (.ok reply, after))
      (silent : ∀ place raw, ¬Json.ObjectAt reply.content.toList place raw) :
      Gives item world none after
  | job {reply : Reply} {after : σ} {place : Nat} {raw : Fields} {job : Job}
      (asked : extractor.model.complete (extractor.question item) world = (.ok reply, after))
      (starts : Json.ObjectAt reply.content.toList place raw)
      (first : ∀ earlier < place, ∀ other, ¬Json.ObjectAt reply.content.toList earlier other)
      (settled : job.Settled item raw) :
      Gives item world (some job) after

/-- Items asked about one after another, each in the world that the one before it left, and the
jobs that came of them. -/
inductive Structures : List Item → σ → List Job → σ → Prop
  | done (world : σ) : Structures [] world [] world
  | item {item : Item} {rest : List Item} {world here final : σ} {job : Option Job}
      {jobs : List Job} (gives : extractor.Gives item world job here)
      (others : Structures rest here jobs final) :
      Structures (item :: rest) world (job.toList ++ jobs) final

theorem extract_apply (item : Item) (world : σ) :
    extractor.extract item world =
      match extractor.model.complete (extractor.question item) world with
      | (.ok reply, after) => (Job.ofAnswer item.id reply.content, after)
      | (.error _, after) => (.ok none, after) := by
  unfold extract
  rw [Action.bind_apply, Action.tryCatch_apply, ← bind_pure_comp, Action.bind_apply]
  rcases extractor.model.complete (extractor.question item) world with ⟨fault | reply, after⟩
  · rfl
  · dsimp only [Function.comp]
    have answered : (pure (some reply) : Action σ (Option Reply)) after =
        (.ok (some reply), after) := rfl
    rw [answered]
    dsimp only
    cases Job.ofAnswer item.id reply.content <;> rfl

theorem extract_gives (item : Item) (world : σ) :
    ∃ job after, extractor.extract item world = (.ok job, after) ∧
      extractor.Gives item world job after := by
  rw [extract_apply]
  rcases asked : extractor.model.complete (extractor.question item) world with
    ⟨fault | reply, after⟩
  · exact ⟨none, after, rfl, .failed asked⟩
  · dsimp only
    cases found : Json.firstObject? reply.content with
    | none =>
        have silent := Json.firstObjectIn?_eq_none_iff.mp found
        exact ⟨none, after, by rw [Job.ofAnswer_none found], .silent asked silent⟩
    | some raw =>
        obtain ⟨place, starts, first⟩ := Json.firstObjectIn?_eq_some_iff.mp found
        obtain ⟨job, made⟩ := Job.ofRaw_ok raw
        have once : (raw.map (·.1)).Nodup := by
          cases Json.keyed_of_firstObject? found with
          | obj once _ => exact once
        exact ⟨some (job.settle item.id), after, by rw [Job.ofAnswer_some found made],
          .job asked starts first (Job.settled_of_ofRaw once made)⟩

/-- Structuring items never fails. There is one job for each of the items, in order, whose question
the model answered with an object somewhere in the reply. It has the id of its item, a title and a
company, the id that the object gives or else that of the item, and as a text whatever else the
object says. -/
theorem extractMany_structures (items : List Item) (world : σ) :
    ∃ jobs final, extractor.extractMany items world = (.ok jobs, final) ∧
      extractor.Structures items world jobs final := by
  induction items generalizing world with
  | nil => exact ⟨[], world, rfl, .done world⟩
  | cons item rest ih =>
      obtain ⟨job, here, extracted, gives⟩ := extractor.extract_gives item world
      obtain ⟨jobs, final, others, structures⟩ := ih here
      refine ⟨job.toList ++ jobs, final, ?_, .item gives structures⟩
      rw [extractMany, Action.bind_apply, extracted]
      dsimp only
      rw [Action.bind_apply, others]
      rfl

end JobExtractor

end Gleaner
