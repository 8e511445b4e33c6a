import Gleaner.Browser.Page

/-!
# Browsers

A browser is launched, gives pages that share one context, and is closed; what failed to launch
is closed as far as it got.
-/

set_option autoImplicit false

namespace Gleaner

/-- What a run needs of a browser. -/
structure Browser (σ : Type) where
  launch : Action σ Unit
  openPage : Action σ (Page σ)
  close : Action σ Unit

namespace Engine

variable {σ : Type} (engine : Engine σ) (settings : BrowserSettings)

private def mark (change : EngineState → EngineState) : Action σ Unit :=
  modify fun world => engine.keep (change (engine.state world)) world

/-- Closes what is open, innermost first. -/
def close : Action σ Unit := do
  if (engine.state (← get)).context then
    engine.closeContext
    engine.mark ({ · with context := false })
  if (engine.state (← get)).browser then
    engine.closeBrowser
    engine.mark ({ · with browser := false })
  if (engine.state (← get)).started then
    engine.stop
    engine.mark ({ · with started := false })

/-- Starts the engine and launches the browser, without a window if that is asked for or set. -/
def launchWith (headless : Option Bool) : Action σ Unit :=
  let attempt : Action σ Unit := do
    engine.start
    engine.mark ({ · with started := true })
    engine.launch settings.kind (headless.getD settings.headless)
    engine.mark ({ · with browser := true })
  tryCatch attempt fun fault => do
    engine.close
    throw (.plain .browserLaunch ("Failed to launch browser: " ++ fault.text) [])

def isConnected (world : σ) : Bool :=
  (engine.state world).browser && engine.connected world

/-- A new page in the shared context, which is opened with the first. -/
def openBrowserPage : Action σ (BrowserPage σ) := do
  if !(engine.state (← get)).browser then
    throw (.plain .browser "Browser not launched. Call launch() first." [])
  if !(engine.state (← get)).context then
    engine.openContext settings
    engine.mark ({ · with context := true })
  engine.openPage
  engine.page.setDefaultTimeout settings.timeoutMs
  return { engine := engine.page, timeoutMs := settings.timeoutMs }

/-- Does something with a launched browser, which is closed whatever happens. -/
def within {α : Type} (work : Action σ α) : Action σ α := do
  engine.launchWith settings none
  let result ← tryCatch (Except.ok <$> work) fun fault => return Except.error fault
  engine.close
  match result with
  | .ok value => return value
  | .error fault => throw fault

def browser : Browser σ :=
  { launch := engine.launchWith settings none
    openPage := BrowserPage.toPage <$> engine.openBrowserPage settings
    close := engine.close }

end Engine

end Gleaner
