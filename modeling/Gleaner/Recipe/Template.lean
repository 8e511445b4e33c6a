import Gleaner.Recipe.Builder

/-!
# Recipe templates

Recipes for boards that show a list of jobs and the details of one. The loop suits endless
lists and pages alike: it notes how many items there are, scrolls, and only when that brought
no new items tries the buttons for more.
-/

set_option autoImplicit false

namespace Gleaner.Template

/-- Takes every item of the list that was not taken yet. -/
def takeItems : Command :=
  .forEachItem [.click, .waitFor .details, .extractDetails none, .save "job", .markDone] true

/-- Scrolls, and turns to the buttons when no new items appeared. -/
def loadMore : List Command :=
  [.checkpointCount, .scroll .list .down, .wait 1.5,
    .choose (.not .newItems)
      [.clickIfExists "loadMoreButton", .clickIfExists "nextPageButton", .wait 2] []]

/-- Takes items and loads more until there are enough or no more. -/
def extractionLoop (maxItems : Nat) : List Command :=
  [.repeatUntil (takeItems :: loadMore) (.any [.collected maxItems, .noMoreItems]), .finish]

/-- Opens a list of jobs and collects up to `maxItems` of them. -/
def jobListing (id url : String) (maxItems : Nat) : Recipe :=
  { id
    name := "Job listing extraction"
    description := s!"Collect up to {maxItems} jobs from {url}"
    commands :=
      .openPage url :: .waitFor .page :: .waitFor .list :: extractionLoop maxItems
    limits := { maxItems := some maxItems } }

def jobSearch (id url query : String) (maxItems : Nat) : Recipe :=
  { id
    name := "Job search extraction"
    description := s!"Search \"{query}\" on {url} and collect up to {maxItems} jobs"
    commands :=
      [.openPage url, .waitFor .page, .goTo "searchBox", .clear, .type query, .submit, .wait 2,
        .waitFor .list] ++ extractionLoop maxItems
    limits := { maxItems := some maxItems } }

private def textArgument (field : String) (value : Json) : Except Fault String :=
  ((Reading.string value).under (.field field)).toExcept.mapError (Fault.malformed field)

/-- A count as the goal of the loop takes it, and then as the limit of the run does. -/
private def countArgument (value : Json) : Except Fault Nat := do
  let _ ← ((Reading.natural 0 none value).under (.field "count")).toExcept.mapError
    (Fault.malformed "count")
  ((Reading.natural 1 none value).under (.field "max_items")).toExcept.mapError
    (Fault.malformed "RecipeConfig")

private def templateParam (name : String) (default : Option Json) : Builder.Param :=
  ⟨name, name, default, false⟩

/-- A template by name with arguments of any form. The description shows the count as it was
given. -/
def call (now : Float) (template : String) (args : List Json) (named : Fields) :
    Except Fault Recipe := do
  let id := timedId "recipe" now
  let url := templateParam "url" none
  let maxItems := templateParam "max_items" (some (.int 20))
  let query := templateParam "query" none
  match template with
  | "job_listing_extraction" =>
      match ← Builder.bind template [url, maxItems] args named with
      | [(_, url), (_, given)] =>
          let url ← textArgument "url" url
          let maxItems ← countArgument given
          return { jobListing id url maxItems with
            description := s!"Collect up to {given.bareText} jobs from {url}" }
      | _ => throw (.foreign "TypeError" template)
  | "job_listing_with_search" =>
      match ← Builder.bind template [url, query, maxItems] args named with
      | [(_, url), (_, query), (_, given)] =>
          let url ← textArgument "url" url
          let query ← textArgument "text" query
          let maxItems ← countArgument given
          return { jobSearch id url query maxItems with
            description :=
              s!"Search \"{query}\" on {url} and collect up to {given.bareText} jobs" }
      | _ => throw (.foreign "TypeError" template)
  | _ => throw (.foreign "AttributeError" template)

end Gleaner.Template
