import Gleaner.Fault
import Gleaner.Json.Reader
import Gleaner.Recipe.Command
import Gleaner.Recipe.Tidy
import Gleaner.Schema.Reading

/-!
# Reading recipes

From JSON to conditions, commands and recipes. A command list is tidied first; then every
object is read by the form its `type` names, unknown fields are passed over, and the problems
of all parts are gathered with the way to them.
-/

set_option autoImplicit false

namespace Gleaner

/-- Reads an object by its `type`; the problems of the form are reported below the tag. -/
def readTagged {α : Type} (tags : List String) (fields : Fields)
    (read : String → Option (Checked α)) : Checked α :=
  match Entries.find? "type" fields with
  | none => .complain .noTag
  | some tag =>
      match tag with
      | .str name =>
          match read name with
          | some result => result.under (.field name)
          | none => .complain (.unknownTag name tags)
      | other => .complain (.unknownTag other.bareText tags)

def Condition.read : Json → Checked Condition
  | .obj fields =>
      readTagged Condition.tags fields fun
        | "EXISTS" => some (.present <$> Fields.required fields "name" Reading.string)
        | "VISIBLE" => some (.visible <$> Fields.required fields "name" Reading.string)
        | "LIST_END" => some (.ok .listEnd)
        | "PAGE_END" => some (.ok .pageEnd)
        | "NEW_ITEMS" => some (.ok .newItems)
        | "NOT" => some (.not <$> Fields.requiredIn fields "condition" fun value _ => read value)
        | "AND" => some (.all <$> Fields.requiredList fields "conditions" fun item _ => read item)
        | "OR" => some (.any <$> Fields.requiredList fields "conditions" fun item _ => read item)
        | _ => none
  | _ => .complain .notTagged
termination_by value => sizeOf value
decreasing_by all_goals simp only [Json.obj.sizeOf_spec]; omega

def Until.read : Json → Checked Until
  | .obj fields =>
      readTagged Until.tags fields fun
        | "COLLECTED" => some (.collected <$> Fields.required fields "count" (Reading.natural 0))
        | "NO_MORE_ITEMS" => some (.ok .noMoreItems)
        | "MAX_SCROLLS" => some (.maxScrolls <$> Fields.required fields "count" (Reading.natural 0))
        | "AND" => some (.all <$> Fields.requiredList fields "conditions" fun item _ => read item)
        | "OR" => some (.any <$> Fields.requiredList fields "conditions" fun item _ => read item)
        | _ => none
  | _ => .complain .notTagged
termination_by value => sizeOf value
decreasing_by all_goals simp only [Json.obj.sizeOf_spec]; omega

def Reading.seconds : Reading Float := fun value =>
  (Reading.float value).demand (fun x => !(x < 0)) (.below 0)

/-- A percentage. -/
def Reading.percentage : Reading Float := fun value =>
  ((Reading.float value).demand (fun x => !(x > 100)) (.above 100)).demand
    (fun x => !(x < 0)) (.below 0)

def Command.read : Json → Checked Command
  | .obj fields =>
      let text (name : String) := Fields.required fields name Reading.string
      readTagged Command.tags fields fun
        | "OPEN_PAGE" => some (.openPage <$> text "url")
        | "GO_BACK" => some (.ok .goBack)
        | "REFRESH" => some (.ok .refresh)
        | "WAIT_FOR" =>
            some (.waitFor <$> Fields.required fields "target" (Reading.choice WaitTarget.names))
        | "WAIT" => some (.wait <$> Fields.required fields "seconds" Reading.seconds)
        | "GO_TO" => some (.goTo <$> text "name")
        | "GO_TO_FILTER" => some (.goToFilter <$> text "name")
        | "GO_TO_ITEM" =>
            some (.goToItem <$>
              Fields.optional fields "which" .next (Reading.choice ItemChoice.names))
        | "TYPE" => some (.type <$> text "text")
        | "SUBMIT" => some (.ok .submit)
        | "CLICK" => some (.ok .click)
        | "CLICK_IF_EXISTS" => some (.clickIfExists <$> text "name")
        | "SELECT" => some (.select <$> text "option")
        | "CLEAR" => some (.ok .clear)
        | "SET_CHECKED" => some (.setChecked <$> Fields.optional fields "checked" true Reading.bool)
        | "SCROLL" =>
            some (.scroll
              <$> Fields.optional fields "target" .list (Reading.choice ScrollTarget.names)
              <*> Fields.optional fields "direction" .down (Reading.choice Direction.names))
        | "SCROLL_IF_NOT_END" =>
            some (.scrollIfNotEnd <$>
              Fields.optional fields "target" .list (Reading.choice ScrollTarget.names))
        | "SCROLL_TO" => some (.scrollTo <$> Fields.required fields "percent" Reading.percentage)
        | "EXTRACT_DETAILS" =>
            some (.extractDetails <$>
              Fields.optional fields "selectors" none
                (Reading.orNull (Reading.list Reading.string)))
        | "SAVE" =>
            some (.save <$> Fields.optional fields ⟨"as", ["save_as"]⟩ "item" Reading.string)
        | "MARK_DONE" => some (.ok .markDone)
        | "FOR_EACH_ITEM_IN_LIST" =>
            some (.forEachItem
              <$> Fields.optionalList fields "body" (fun item _ => read item)
              <*> Fields.optional fields ⟨"skipProcessed", ["skip_processed"]⟩ true Reading.bool)
        | "IF" =>
            some (.choose
              <$> Fields.required fields "condition" Condition.read
              <*> Fields.optionalList fields "then" (fun item _ => read item)
              <*> Fields.optionalList fields ⟨"else", ["else_"]⟩ (fun item _ => read item))
        | "REPEAT" =>
            some (.repeatUntil
              <$> Fields.optionalList fields "body" (fun item _ => read item)
              <*> Fields.required fields "until" Until.read)
        | "CHECKPOINT_COUNT" => some (.ok .checkpointCount)
        | "CONTINUE" => some (.ok .continueItem)
        | "END" => some (.ok .finish)
        | _ => none
  | _ => .complain .notTagged
termination_by value => sizeOf value
decreasing_by all_goals simp only [Json.obj.sizeOf_spec]; omega

def Command.readList (items : List Json) : Checked (List Command) :=
  Reading.eachIn items fun item _ => Command.read item

def RunLimits.read : Reading RunLimits
  | .obj fields =>
      RunLimits.mk
        <$> Fields.optional fields ⟨"maxItems", ["max_items"]⟩ none
          (Reading.orNull (Reading.natural 1))
        <*> Fields.optional fields ⟨"timeout", ["timeout_ms"]⟩ none
          (Reading.orNull (Reading.natural 1))
  | _ => .complain (.notObjectOf "RecipeConfig")

/-- Reads a recipe whose commands are tidy; `newId` is its id when it names none. -/
def Recipe.ofFields (newId : String) (fields : Fields) : Checked Recipe :=
  Recipe.mk
    <$> Fields.optional fields "id" newId Reading.string
    <*> Fields.optional fields "name" "" Reading.string
    <*> Fields.optional fields "description" "" Reading.string
    <*> Fields.optional fields "commands" [] (Reading.list Command.read)
    <*> Fields.optional fields "config" {} RunLimits.read

inductive RecipeFault where
  | notJson (reason : Json.ReadError)
  | notObject
  | commands (problems : Problems)
  | recipe (problems : Problems)
  deriving Repr

namespace RecipeFault

def problems : RecipeFault → List Problem
  | .commands problems => problems.toList
  | .recipe problems => problems.toList
  | _ => []

def message : RecipeFault → String
  | .notJson reason => "Recipe is not valid JSON: " ++ reason.message
  | .notObject => "Recipe must be a JSON object"
  | .commands problems => "Invalid commands: " ++ problems.first.message
  | .recipe problems => "Invalid recipe: " ++ problems.first.message

def toFault (fault : RecipeFault) : Fault :=
  .plain .recipeValidation fault.message
    (if fault.problems.isEmpty then []
    else [("errors", .ofStrings (fault.problems.map Problem.message))])

end RecipeFault

def Command.parseList (value : Json) : Except RecipeFault (List Command) :=
  (Command.readList (Tidy.commands value)).toExcept.mapError .commands

def Recipe.parse (newId : String) : Json → Except RecipeFault Recipe
  | .obj fields =>
      let tidy := Tidy.commands ((Entries.find? "commands" fields).getD (.arr []))
      (Recipe.ofFields newId (Entries.put "commands" (.arr tidy) fields)).toExcept.mapError .recipe
  | _ => .error .notObject

def Recipe.parseText (newId : String) (text : String) : Except RecipeFault Recipe :=
  match Json.read text with
  | .ok value => Recipe.parse newId value
  | .error reason => .error (.notJson reason)

/-- Reads a recipe from a value, which may be the text of one. -/
def Recipe.ofJson (newId : String) : Json → Except Fault Recipe
  | .str text => (Recipe.parseText newId text).mapError RecipeFault.toFault
  | value => (Recipe.parse newId value).mapError RecipeFault.toFault

end Gleaner
