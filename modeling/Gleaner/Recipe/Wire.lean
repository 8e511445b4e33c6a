import Gleaner.Json.Writer
import Gleaner.Recipe.Command

/-!
# Recipes as JSON

The JSON form of conditions, commands and recipes: one object each, tagged by `type`, with
the fields in the order of their declaration. What is not set is left out.
-/

set_option autoImplicit false

namespace Gleaner

private def tagged (tag : String) (fields : Fields) : Json :=
  .obj (("type", .str tag) :: fields)

mutual

def Condition.toJson : Condition → Json
  | .present name => tagged "EXISTS" [("name", .str name)]
  | .visible name => tagged "VISIBLE" [("name", .str name)]
  | .listEnd => tagged "LIST_END" []
  | .pageEnd => tagged "PAGE_END" []
  | .newItems => tagged "NEW_ITEMS" []
  | .not inner => tagged "NOT" [("condition", inner.toJson)]
  | .all parts => tagged "AND" [("conditions", .arr (Condition.listToJson parts))]
  | .any parts => tagged "OR" [("conditions", .arr (Condition.listToJson parts))]

def Condition.listToJson : List Condition → List Json
  | [] => []
  | part :: rest => part.toJson :: Condition.listToJson rest

end

mutual

def Until.toJson : Until → Json
  | .collected count => tagged "COLLECTED" [("count", .int count)]
  | .noMoreItems => tagged "NO_MORE_ITEMS" []
  | .maxScrolls count => tagged "MAX_SCROLLS" [("count", .int count)]
  | .all parts => tagged "AND" [("conditions", .arr (Until.listToJson parts))]
  | .any parts => tagged "OR" [("conditions", .arr (Until.listToJson parts))]

def Until.listToJson : List Until → List Json
  | [] => []
  | part :: rest => part.toJson :: Until.listToJson rest

end

mutual

def Command.toJson : Command → Json
  | .openPage url => tagged "OPEN_PAGE" [("url", .str url)]
  | .goBack => tagged "GO_BACK" []
  | .refresh => tagged "REFRESH" []
  | .waitFor target => tagged "WAIT_FOR" [("target", .str target.text)]
  | .wait seconds => tagged "WAIT" [("seconds", .float seconds)]
  | .goTo name => tagged "GO_TO" [("name", .str name)]
  | .goToFilter name => tagged "GO_TO_FILTER" [("name", .str name)]
  | .goToItem which => tagged "GO_TO_ITEM" [("which", .str which.text)]
  | .type text => tagged "TYPE" [("text", .str text)]
  | .submit => tagged "SUBMIT" []
  | .click => tagged "CLICK" []
  | .clickIfExists name => tagged "CLICK_IF_EXISTS" [("name", .str name)]
  | .select option => tagged "SELECT" [("option", .str option)]
  | .clear => tagged "CLEAR" []
  | .setChecked checked => tagged "SET_CHECKED" [("checked", .bool checked)]
  | .scroll target direction =>
      tagged "SCROLL" [("target", .str target.text), ("direction", .str direction.text)]
  | .scrollIfNotEnd target => tagged "SCROLL_IF_NOT_END" [("target", .str target.text)]
  | .scrollTo percent => tagged "SCROLL_TO" [("percent", .float percent)]
  | .extractDetails none => tagged "EXTRACT_DETAILS" []
  | .extractDetails (some selectors) =>
      tagged "EXTRACT_DETAILS" [("selectors", .ofStrings selectors)]
  | .save label => tagged "SAVE" [("as", .str label)]
  | .markDone => tagged "MARK_DONE" []
  | .forEachItem body skipProcessed =>
      tagged "FOR_EACH_ITEM_IN_LIST"
        [("body", .arr (Command.listToJson body)), ("skipProcessed", .bool skipProcessed)]
  | .choose condition thenBranch elseBranch =>
      tagged "IF"
        [("condition", condition.toJson), ("then", .arr (Command.listToJson thenBranch)),
          ("else", .arr (Command.listToJson elseBranch))]
  | .repeatUntil body goal =>
      tagged "REPEAT" [("body", .arr (Command.listToJson body)), ("until", goal.toJson)]
  | .checkpointCount => tagged "CHECKPOINT_COUNT" []
  | .continueItem => tagged "CONTINUE" []
  | .finish => tagged "END" []

def Command.listToJson : List Command → List Json
  | [] => []
  | command :: rest => command.toJson :: Command.listToJson rest

end

def RunLimits.toJson (limits : RunLimits) : Json :=
  .obj ((limits.maxItems.map fun n => ("maxItems", Json.int n)).toList ++
    (limits.timeoutMs.map fun n => ("timeout", Json.int n)).toList)

def Recipe.toJson (recipe : Recipe) : Json :=
  .obj
    [("id", .str recipe.id), ("name", .str recipe.name), ("description", .str recipe.description),
      ("commands", .arr (Command.listToJson recipe.commands)), ("config", recipe.limits.toJson)]

def Recipe.toText (indent : Nat) (recipe : Recipe) : String :=
  recipe.toJson.writeIndented indent

end Gleaner
