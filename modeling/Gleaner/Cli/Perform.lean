import Gleaner.Cli.Desk
import Gleaner.Cli.Invocation
import Gleaner.Harvest
import Gleaner.Logging
import Gleaner.Recipe.Template
import Gleaner.Settings.Load

/-!
# Commands

What the commands do at a desk. Faults of the library end a command with a word about them;
others end it as they are.
-/

set_option autoImplicit false

namespace Gleaner.Cli

def version : String := "0.1.0"

namespace Desk

variable {σ : Type} (desk : Desk σ)

/-! ## Settings and files -/

/-- The settings of a process; an environment file adds to its variables. -/
def settings (path : Option String) : Work σ Settings := do
  let world ← get
  let (settings, env) ← orStop (Settings.load (desk.files world) (desk.environment world) { path })
  modify (desk.setEnvironment env)
  return settings

def settingsOrRefuse (path : Option String) : Work σ Settings :=
  tryCatch (desk.settings path) fun stop =>
    match stop with
    | .fault fault =>
        if fault.kind?.isSome then desk.refuse ("[red]✗ " ++ fault.text ++ "[/red]")
        else throw stop
    | stop => throw stop

def readJson (path : String) : Work σ Json := do
  let path := normalPath path
  match (desk.files (← get)).text? path with
  | none => desk.refuse ("[red]✗ File not found: " ++ path ++ "[/red]")
  | some text =>
      match Json.read text with
      | .ok value => return value
      | .error reason =>
          desk.refuse ("[red]✗ " ++ path ++ " is not valid JSON: " ++ reason.message ++ "[/red]")

/-- The recipe in a file, with a fault of its form as it is. -/
def readRecipe (path : String) : Work σ Recipe := do
  let value ← desk.readJson path
  let newId := timedId "recipe" (desk.clock.time (← get))
  orStop (Recipe.ofJson newId value)

/-- What to do about a fault of the form of a recipe. -/
def orInvalid {α : Type} (work : Work σ α) (told : Fault → Work σ α) : Work σ α :=
  tryCatch work fun stop =>
    match stop with
    | .fault fault => if fault.isA .recipeValidation then told fault else throw stop
    | stop => throw stop

def title (recipe : Recipe) : String :=
  if recipe.name = "" then recipe.id else recipe.name

/-! ## Runs -/

def defaultMaxItems : Int := 20

/-- The recipe to run: that of a file with the limit that was asked for, or the usual one. -/
def recipeFor (request : RunRequest) : Work σ Recipe := do
  match request.recipePath with
  | none =>
      let most := request.maxItems.getD defaultMaxItems
      orStop (Template.call (desk.clock.time (← get)) "job_listing_extraction"
        [.str request.url, .int most] [])
  | some path =>
      let recipe ← orInvalid (desk.readRecipe path) fun fault =>
        desk.refuse ("[red]✗ Invalid recipe: " ++ fault.message ++ "[/red]")
      match request.maxItems with
      | some most =>
          return { recipe with
            limits := { recipe.limits with maxItems := some (max 1 most).toNat } }
      | none => return recipe

def overrides (request : RunRequest) : Fields :=
  let model := request.model.map fun name => ("model", Json.str name)
  let baseUrl := request.apiUrl.map fun url => ("base_url", Json.str url)
  let llm := model.toList ++ baseUrl.toList
  (if llm.isEmpty then [] else [("llm", .obj llm)]) ++
    if request.visible then [("browser", .obj [("headless", .bool false)])] else []

def thenAlways {α : Type} (work : Action σ α) (after : Action σ Unit) : Action σ α := do
  let result ← tryCatch (Except.ok <$> work) fun fault => return Except.error fault
  after
  match result with
  | .ok value => return value
  | .error fault => throw fault

def harvest (request : RunRequest) (settings : Settings) (recipe : Recipe) :
    Action σ Harvest := do
  let model ← desk.model settings.llm none
  let extractor ←
    if request.extractJobs then do
      let model ← desk.model settings.llm settings.llm.extractorModel
      pure (some { model : JobExtractor σ })
    else pure none
  let browser ← desk.browser settings.browser
  let storePath := expandHome desk.home settings.bindings.storePath
  let store := Medium.file.store desk.clock
    (fun world => (desk.files world).text? storePath)
    (fun text world =>
      desk.setFiles ((desk.files world).save storePath (text.getD "")) world)
  let work : Action σ Harvest := do
    if !(← model.healthy) then
      desk.tell ("[yellow]Warning: LLM API at " ++ settings.llm.baseUrl ++
        " may not be available[/yellow]")
    browser.launch
    let page ← browser.openPage
    page.navigate request.url
    let advisor : Advisor σ :=
      { model
        clock := desk.clock
        settings := settings.bindings
        retry := Advisor.defaultRetry
        note := fun _ world => world }
    let harvester : Harvester σ :=
      { page
        clock := desk.clock
        advisor
        store
        extractor
        settings
        progress := fun line => desk.tell ("[dim]• " ++ line ++ "[/dim]") }
    harvester.harvest recipe request.rediscover
  thenAlways work browser.close

def previewChars : Nat := 80

def preview (content : String) : String :=
  let line := Text.squeeze content
  Text.take previewChars line ++ if previewChars < line.length then "..." else ""

def tellHarvest (harvest : Harvest) : Work σ Unit := do
  let count := harvest.items.length
  if harvest.success then desk.say s!"\n[green]✓ Success![/green] {count} items"
  else
    desk.say s!"\n[red]✗ Failed[/red] {count} items collected before the failure"
    match harvest.error.getD "" with
    | "" => pure ()
    | error => desk.say ("  Error: " ++ error)
  let stats := harvest.stats.run
  let seconds := Decimal.fixed 1 (stats.durationMs / 1000)
  desk.say (s!"  Commands: {stats.commandsExecuted}  Scrolls: {stats.scrollsPerformed}  " ++
    s!"Fixes: {stats.bindingFixes}  Attempts: {harvest.stats.attempts}  Duration: {seconds}s")
  if !harvest.jobs.isEmpty then
    desk.table ["Title", "Company", "Location"]
      (harvest.jobs.map fun job => [job.title, job.company, job.location.getD ""])
  else if !harvest.items.isEmpty then
    desk.table ["#", "ID", "Content"]
      (harvest.items.zipIdx.map fun (item, index) =>
        [toString (index + 1), item.id, preview item.content])

def write (path text : String) : Work σ Unit := do
  let files ← orStop ((desk.files (← get)).write path text)
  modify (desk.setFiles files)

def run (request : RunRequest) : Work σ Unit := do
  let _ ← orStop (Logging.configure request.logLevel false false)
  let settings ← desk.settingsOrRefuse request.config
  let changes := overrides request
  let settings ←
    if changes.isEmpty then pure settings
    else orStop (settings.mergeWith (desk.environment (← get)) changes)
  let recipe ← desk.recipeFor request
  desk.say ("[bold blue]Recipe Agent[/bold blue]\n" ++
    "[dim]URL:[/dim] " ++ request.url ++ "\n" ++
    "[dim]Recipe:[/dim] " ++ title recipe ++ s!" ({recipe.commands.length} commands)\n" ++
    "[dim]Model:[/dim] " ++ settings.llm.model)
  let harvest ← tryCatch (act (desk.harvest request settings recipe)) fun stop =>
    match stop with
    | .fault fault =>
        if fault.kind?.isSome then desk.refuse ("\n[red]Error: " ++ fault.text ++ "[/red]")
        else throw stop
    | stop => throw stop
  desk.tellHarvest harvest
  match request.output with
  | some path =>
      desk.write path (Json.writeIndented 2 harvest.toJson)
      desk.say ("[dim]Result written to " ++ path ++ "[/dim]")
  | none => pure ()
  if !harvest.success then throw (.exit 1)

/-! ## Checks -/

def validateRecipe (path : String) : Work σ Unit := do
  let recipe ← orInvalid (desk.readRecipe path) fun fault => do
    desk.say ("[red]✗ Invalid recipe: " ++ fault.message ++ "[/red]")
    match Entries.find? "errors" fault.details with
    | some (.arr errors) => errors.forM fun error => desk.say ("  - " ++ error.bareText)
    | _ => pure ()
    throw (.exit 1)
  desk.say ("[green]✓ Recipe '" ++ title recipe ++ "' is valid[/green] " ++
    s!"({recipe.commands.length} commands)")

def validateBindings (path : String) : Work σ Unit := do
  match ← desk.readJson path with
  | .obj fields =>
      let report := reportOnRaw fields
      report.errors.forM fun error => desk.say ("[red]  error[/red]   " ++ error)
      report.warnings.forM fun warning => desk.say ("[yellow]  warning[/yellow] " ++ warning)
      if report.isValid then desk.say "[green]✓ Bindings are valid[/green]"
      else desk.refuse "[red]✗ Bindings are invalid[/red]"
  | _ => desk.refuse "[red]✗ Bindings must be a JSON object[/red]"

/-! ## Stored bindings -/

/-- The path of the store: the one that was asked for, or that of the settings. -/
def storePath (store : Option String) : Work σ String := do
  match store with
  | some path => return expandHome desk.home path
  | none => return expandHome desk.home (← desk.settings none).bindings.storePath

def listBindings (store : Option String) : Work σ Unit := do
  let path ← desk.storePath store
  let world ← get
  let now := desk.clock.time world
  let records ← orStop (Medium.file.all now ((desk.files world).text? path))
  if records.isEmpty then desk.say "[dim]No stored bindings[/dim]"
  else
    let sorted := records.mergeSort fun a b => !(a.updatedAt < b.updatedAt)
    desk.table ["ID", "URL pattern", "Version", "Age"]
      (sorted.map fun record =>
        [record.id, record.urlPattern, toString record.version,
          Decimal.fixed 1 (record.ageHours now) ++ "h"])

def clearBindings (url store : Option String) : Work σ Unit := do
  let path ← desk.storePath store
  let world ← get
  let files := desk.files world
  let keep (text : Option String) : Work σ Unit :=
    match text with
    | some text => modify (desk.setFiles (files.save path text))
    | none => pure ()
  match url with
  | some url =>
      let (count, text) ← orStop
        (Medium.file.clearForUrl (desk.clock.time world) url (files.text? path))
      if 0 < count then keep text
      desk.say (s!"[green]✓ Removed {count} bindings for " ++ url ++ "[/green]")
  | none =>
      keep (some (Medium.toText []))
      desk.say "[green]✓ Removed all stored bindings[/green]"

/-! ## Invocations -/

def perform : Invocation → Work σ Unit
  | .run request => desk.run request
  | .validateRecipe path => desk.validateRecipe path
  | .validateBindings path => desk.validateBindings path
  | .listBindings store => desk.listBindings store
  | .clearBindings url store => desk.clearBindings url store
  | .version => desk.say ("[bold]Recipe Agent[/bold] v" ++ version)

end Desk

/-- The exit code of a process, and the fault that ended it if it was not a foreseen one. -/
structure Ending where
  code : Nat
  fault : Option Fault := none

def usage : List String :=
  ["Usage: gleaner COMMAND", "",
    "  run URL               Run a recipe against a page",
    "  validate-recipe FILE    Check that a recipe parses into known commands",
    "  validate-bindings FILE  Check a bindings record",
    "  bindings list           List stored bindings",
    "  bindings clear          Delete stored bindings",
    "  version                 Show version information"]

def serve {σ : Type} (desk : Desk σ) (args : List String) : StateM σ Ending := do
  match Invocation.parse args with
  | .error .misused => return { code := 2 }
  | .error .help =>
      let _ ← (desk.printLines usage).run
      return { code := 0 }
  | .ok invocation =>
      match ← (desk.perform invocation).run with
      | .ok () => return { code := 0 }
      | .error (.exit code) => return { code }
      | .error (.fault fault) => return { code := 1, fault }

end Gleaner.Cli
