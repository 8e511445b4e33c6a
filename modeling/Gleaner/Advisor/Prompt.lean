import Gleaner.Json.Writer
import Gleaner.Text.Blank

/-!
# Prompts

The two questions put to a model: where things are on a page, and what a binding that no
longer fits should be. Both ask for a single JSON object. Texts of pages are cut to a budget.
-/

set_option autoImplicit false

namespace Gleaner

/-- How much text of a page a prompt may hold. -/
structure PromptLimits where
  maxSnapshotChars : Int := 30000
  maxRepairContextChars : Int := 5000

structure Prompt where
  system : String
  user : String
  deriving DecidableEq, Repr

namespace Prompt

def lines (texts : List String) : String :=
  "\n".intercalate texts

/-- The first characters of a text; a negative count leaves out that many at the end. -/
def cut (count : Int) (text : String) : String :=
  if count < 0 then Text.take (text.length - count.natAbs) text
  else Text.take count.toNat text

def discoverySystem : String := lines [
    "You analyze job search pages and map their layout to CSS selectors for an automation engine.",
    "",
    "RULES:",
    "1. Output ONLY one JSON object, with no markdown and no explanation",
    "2. Use ONLY selectors that appear in the provided DOM",
    "3. Prefer stable hooks: data attributes ([data-job-id], [data-occludable-job-id]), ids, " ++
      "then class names",
    "4. Copy class names exactly: class=\"jobs-list\" becomes \".jobs-list\"",
    "5. LIST and LIST_ITEM are REQUIRED and must never be empty strings",
    "",
    "PAGE LAYOUT:",
    "Most job boards show a scrollable LIST of repeating job cards and, next to it,",
    "a DETAILS PANEL that fills in when a card is clicked. Header and navigation",
    "links (Home, Jobs, Messaging, ...) are NOT the job list.",
    "",
    "- LIST: the container holding every job card",
    "- LIST_ITEM: one repeating job card inside LIST",
    "- DETAILS_PANEL: where full details appear after a click (null if cards expand inline)",
    "- DETAILS_CONTENT: selectors for the pieces inside the details panel",
    "",
    "OUTPUT SHAPE:",
    "\x7b",
    "  \"LIST\": \".jobs-list\",",
    "  \"LIST_ITEM\": \".jobs-list > li[data-job-id]\",",
    "  \"DETAILS_PANEL\": \".job-details or null\",",
    "  \"DETAILS_CONTENT\": [\".job-title\", \".company-name\", \".job-description\"],",
    "  \"SCROLL_CONTAINER\": \"selector if the list scrolls on its own, else null\",",
    "  \"NEXT_PAGE_BUTTON\": \"pagination next button, or null\",",
    "  \"LOAD_MORE_BUTTON\": \"load more button, or null\",",
    "  \"SEARCH_BOX\": \"keyword search input, or null\",",
    "  \"PAGE_LOADED\": \x7b\"exists\": \"same selector as LIST\"\x7d,",
    "  \"LIST_LOADED\": \x7b\"exists\": \"same selector as LIST_ITEM\"\x7d,",
    "  \"DETAILS_LOADED\": \x7b\"exists\": \"selector present once details are rendered\"\x7d,",
    "  \"NO_MORE_ITEMS\": \x7b\"exists\": \"selector of the 'no results' message\"\x7d,",
    "  \"ITEM_ID\": \x7b\"from\": \"data\", \"attribute\": \"data-job-id\"\x7d,",
    "  \"SCROLL_BEHAVIOR\": \"infinite | paginated | load_more_button | static\",",
    "  \"CLICK_BEHAVIOR\": \"shows_panel | navigates | expands | inline\",",
    "  \"ELEMENTS\": \x7b\"applyButton\": \"selector\", \"saveButton\": \"selector\"\x7d",
    "\x7d",
    "",
    "ITEM_ID \"from\" is one of: \"href\" (with \"selector\" for the link and a regex \"pattern\"",
    "whose first group is the id), \"attribute\" (with \"attribute\"), \"data\", or \"text\"."
  ]

def repairSystem : String := lines [
    "You repair one broken binding of a web automation engine.",
    "",
    "A command failed because a selector or page-state condition no longer matches",
    "the page. Find the correct value in the current DOM.",
    "",
    "RULES:",
    "1. Output ONLY one JSON object whose single key is the binding name",
    "2. Use ONLY selectors that appear in the DOM",
    "3. Selector bindings take a string; conditions take \x7b\"exists\": \"selector\"\x7d;",
    "   DETAILS_CONTENT takes a list of selectors; ELEMENTS and FILTERS take an object of names",
    "4. If nothing in the DOM fits, output \x7b\x7d"
  ]

def discovery (limits : PromptLimits) (url title elements : String)
    (visibleText : Option String) : Prompt :=
  let visible := match visibleText.getD "" with
    | "" => ""
    | text => "\nVISIBLE TEXT (excerpt):\n" ++ Text.take 2000 text ++ "\n"
  { system := discoverySystem
    user := lines [
      "Map this job search page to selectors.",
      "",
      "URL: " ++ url,
      "TITLE: " ++ (if title = "" then "(untitled)" else title),
      "",
      "DOM ELEMENTS:",
      cut limits.maxSnapshotChars elements,
      visible,
      "Focus on the main job listing area, not the site header.",
      "Output ONLY the JSON object."] }

def repair (limits : PromptLimits) (command : Json) (binding : String) (current : Json)
    (error dom : String) : Prompt :=
  let shown := cut limits.maxRepairContextChars dom
  { system := repairSystem
    user := lines [
      "A command failed. Fix the binding.",
      "",
      "COMMAND: " ++ command.write,
      "BINDING: " ++ binding,
      "CURRENT VALUE: " ++ current.write,
      "ERROR: " ++ error,
      "",
      "CURRENT DOM:",
      if shown = "" then "(unavailable)" else shown,
      "",
      "What should " ++ binding ++ " be instead? Output JSON like:",
      "\x7b\"" ++ binding ++ "\": <new value>\x7d"] }

end Prompt

end Gleaner
