import Gleaner.Json.Embedded
import Gleaner.Model
import Gleaner.Run.Basic
import Gleaner.Schema.Reading
import Gleaner.Text.Literal

/-!
# Jobs

A saved item as a structured job, read from a model's answer. When the answer does not have
the form of a job, whatever plain values it holds are kept as text.
-/

set_option autoImplicit false

namespace Gleaner

structure Job where
  title : String := "Unknown"
  company : String := "Unknown"
  location : Option String := none
  salary : Option String := none
  jobType : Option String := none
  experienceLevel : Option String := none
  jobId : Option String := none
  description : Option String := none
  postedTime : Option String := none
  /-- The id of the item that the job was read from. -/
  sourceId : Option String := none
  deriving DecidableEq, Repr

namespace Job

def text? (fields : Fields) (name : FieldName) : Checked (Option String) :=
  Fields.optional fields name none (Reading.orNull Reading.string)

def ofFields (fields : Fields) : Checked Job :=
  Job.mk
    <$> Fields.optional fields "title" "Unknown" Reading.string
    <*> Fields.optional fields "company" "Unknown" Reading.string
    <*> text? fields "location"
    <*> text? fields "salary"
    <*> text? fields ⟨"jobType", ["job_type"]⟩
    <*> text? fields ⟨"experienceLevel", ["experience_level"]⟩
    <*> text? fields ⟨"jobId", ["job_id"]⟩
    <*> text? fields "description"
    <*> text? fields ⟨"postedTime", ["posted_time"]⟩
    <*> text? fields ⟨"sourceId", ["source_id"]⟩

def toJson (job : Job) : Json :=
  .obj
    [("title", .str job.title), ("company", .str job.company),
      ("location", .ofString? job.location), ("salary", .ofString? job.salary),
      ("jobType", .ofString? job.jobType), ("experienceLevel", .ofString? job.experienceLevel),
      ("jobId", .ofString? job.jobId), ("description", .ofString? job.description),
      ("postedTime", .ofString? job.postedTime), ("sourceId", .ofString? job.sourceId)]

/-- A plain value as a text, if it says anything. -/
def plainText? : Json → Option String
  | .null | .str "" | .arr _ | .obj _ => none
  | value => some value.bareText

/-- The plain values of an object as texts, without what is empty. -/
def plainTexts (fields : Fields) : Fields :=
  fields.filterMap fun (key, value) => (plainText? value).map fun text => (key, .str text)

/-- A job from an object, as far as it has the form of one. -/
def ofRaw (raw : Fields) : Checked Job :=
  match ofFields raw with
  | .ok job => .ok job
  | .error _ => ofFields (plainTexts raw)

/-- A job as that of an item: a title, a company and an id are always there. -/
def settle (itemId : String) (job : Job) : Job :=
  let orUnknown (text : String) := if text = "" then "Unknown" else text
  { job with
    title := orUnknown job.title
    company := orUnknown job.company
    sourceId := some itemId
    jobId := match job.jobId.getD "" with
      | "" => some itemId
      | id => some id }

/-- The job in an answer, if there is an object in it. -/
def ofAnswer (itemId answer : String) : Except Fault (Option Job) :=
  match Json.firstObject? answer with
  | none => .ok none
  | some raw =>
      match ofRaw raw with
      | .ok job => .ok (some (job.settle itemId))
      | .error problems => .error (.malformed "JobData" problems)

end Job

structure JobExtractor (σ : Type) where
  model : Model σ
  modelName : Option String := none

namespace JobExtractor

def maxContentChars : Nat := 3000

def systemPrompt : String := "\n".intercalate [
    "Extract job details from job posting text. Output ONLY one JSON object, no explanation.",
    "",
    "HINTS:",
    "- The company name usually follows the job title, often on the next line",
    "- Location follows the company, e.g. \"Company · City, State · 2 days ago\"",
    "- Use null for anything the text does not state"
  ]

def answerShape : String :=
  "\x7b\"title\": \"Job Title\", \"company\": \"Company Name\", " ++
    "\"location\": \"City, State or Remote\", \"salary\": null, \"jobType\": \"Full-time\", " ++
    "\"experienceLevel\": null, \"jobId\": null, " ++
    "\"description\": \"first 500 characters of the description\", " ++
    "\"postedTime\": \"2 days ago\"\x7d"

def userPrompt (content : String) : String := "\n".intercalate [
    "Extract the job from this text:",
    "---",
    Text.take maxContentChars content,
    "---",
    "",
    "Output this JSON structure with values from the text:",
    answerShape
  ]

variable {σ : Type} (extractor : JobExtractor σ)

/-- What the model is asked about an item. -/
def question (item : Item) : Completion :=
  { messages := [⟨.system, systemPrompt⟩, ⟨.user, userPrompt item.content⟩]
    model := extractor.modelName }

/-- The job of one item; a fault of the model leaves it without. -/
def extract (item : Item) : Action σ (Option Job) := do
  match ← tryCatch (some <$> extractor.model.complete (extractor.question item)) fun _ =>
      return none with
  | some reply => liftM (Job.ofAnswer item.id reply.content)
  | none => return none

/-- The jobs of some items, in order, without the ones that came to nothing. -/
def extractMany : List Item → Action σ (List Job)
  | [] => return []
  | item :: rest => do
      let job ← extractor.extract item
      let jobs ← extractMany rest
      return job.toList ++ jobs

end JobExtractor

end Gleaner
