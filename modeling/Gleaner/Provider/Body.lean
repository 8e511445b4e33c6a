import Gleaner.Json.Reader
import Gleaner.Model
import Gleaner.Text.Literal

/-!
# Bodies of completions

A completion as a body of JSON: the first of its choices holds a message. A body without one is
malformed. What stands in the fields of the message is not looked into.
-/

set_option autoImplicit false

namespace Gleaner

/-- A completion as it was sent, its fields as they came. -/
structure RawReply where
  content : Json
  model : Json
  promptTokens : Json
  completionTokens : Json
  totalTokens : Json
  finish : Json

inductive BodyFault where
  | unreadable (error : Json.ReadError)
  | noField (key : String)
  | noItem
  | noCharacter
  /-- A value of this kind has no parts. -/
  | noParts (kind : String)
  | listHasNoFields
  | textHasNoFields

def BodyFault.message : BodyFault → String
  | .unreadable error => error.message
  | .noField key => Text.quoted key
  | .noItem => "list index out of range"
  | .noCharacter => "string index out of range"
  | .noParts kind => "'" ++ kind ++ "' object is not subscriptable"
  | .listHasNoFields => "list indices must be integers or slices, not str"
  | .textHasNoFields => "string indices must be integers, not 'str'"

namespace RawReply

def field (key : String) : Json → Except BodyFault Json
  | .obj fields =>
      match Entries.find? key fields with
      | some value => .ok value
      | none => .error (.noField key)
  | .arr _ => .error .listHasNoFields
  | .str _ => .error .textHasNoFields
  | other => .error (.noParts other.kindName)

/-- The first part of a value; an object has no first part, and says so by its number. -/
def first : Json → Except String Json
  | .arr (item :: _) => .ok item
  | .arr [] => .error BodyFault.noItem.message
  | .str text =>
      match text.toList with
      | c :: _ => .ok (.str (.singleton c))
      | [] => .error BodyFault.noCharacter.message
  | .obj _ => .error "0"
  | other => .error (BodyFault.noParts other.kindName).message

/-- A body read as JSON; a mark of the byte order does not count. -/
def readBody (body : String) : Except BodyFault Json :=
  let text := match body.toList with
    | '\ufeff' :: rest => String.ofList rest
    | _ => body
  (Json.read text).mapError .unreadable

/-- The body, its first choice, and the message of that; what is wrong if there is none. -/
def parts (body : String) : Except String (Json × Json × Json) := do
  let named {α : Type} (result : Except BodyFault α) : Except String α :=
    result.mapError BodyFault.message
  let whole ← named (readBody body)
  let choice ← first (← named (field "choices" whole))
  return (whole, choice, ← named (field "message" choice))

def fieldsOf (value : Json) : Except Fault Fields :=
  match value with
  | .obj fields => .ok fields
  | other =>
      .error (.foreign "AttributeError"
        ("'" ++ other.kindName ++ "' object has no attribute 'get'"))

/-- The value of a field, or another one where it is absent or says nothing. -/
def fieldOr (key : String) (default : Json) (fields : Fields) : Json :=
  match Entries.find? key fields with
  | some value => if value.truthy then value else default
  | none => default

/-- The completion in a body; `model` is the one that was asked. -/
def read (model : String) (body : String) : Except Fault RawReply := do
  match parts body with
  | .error reason =>
      throw (.invalidResponse ("Malformed completion body: " ++ reason) (some body))
  | .ok (whole, choice, message) =>
      let message ← fieldsOf message
      let whole ← fieldsOf whole
      let usage ← fieldsOf (fieldOr "usage" (.obj []) whole)
      let tokens (key : String) : Json := (Entries.find? key usage).getD (.int 0)
      return {
        content := fieldOr "content" (.str "") message
        model := (Entries.find? "model" whole).getD (.str model)
        promptTokens := tokens "prompt_tokens"
        completionTokens := tokens "completion_tokens"
        totalTokens := tokens "total_tokens"
        finish := fieldOr "finish_reason" (.str "stop") (← fieldsOf choice) }

def reply (raw : RawReply) : Except Fault Reply := do
  let text (value : Json) : Except Fault String :=
    match value with
    | .str text => .ok text
    | other => .error (.foreign "TypeError" ("expected str, got " ++ other.kindName))
  let number (value : Json) : Number :=
    match value with
    | .int n => .int n
    | .float x => .float x
    | _ => .int 0
  return {
    content := ← text raw.content
    model := raw.model.bareText
    usage := ⟨number raw.promptTokens, number raw.completionTokens, number raw.totalTokens⟩
    finish := raw.finish.bareText }

end RawReply

end Gleaner
