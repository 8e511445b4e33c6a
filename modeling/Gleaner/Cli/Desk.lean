import Gleaner.Browser.Basic
import Gleaner.Cli.Markup
import Gleaner.Files
import Gleaner.Model
import Gleaner.Settings.Environment

/-!
# Desks

What the commands work with: the files and variables of a process, a console, and the ways to
a model and to a browser. A command may stop early with an exit code of its own.
-/

set_option autoImplicit false

namespace Gleaner.Cli

structure Desk (σ : Type) where
  clock : Clock σ
  /-- The home folder. -/
  home : String
  environment : σ → Environment
  setEnvironment : Environment → σ → σ
  files : σ → Files
  setFiles : Files → σ → σ
  /-- Puts a line on the console. -/
  print : String → Action σ Unit
  /-- The model of some settings, or another one behind the same host. -/
  model : ModelSettings → Option String → Action σ (Model σ)
  browser : BrowserSettings → Action σ (Browser σ)

inductive Stop where
  | exit (code : Nat)
  | fault (fault : Fault)

abbrev Work (σ : Type) := ExceptT Stop (StateM σ)

variable {σ : Type}

def act {α : Type} (work : Action σ α) : Work σ α := fun world =>
  match work world with
  | (.ok value, world) => (.ok value, world)
  | (.error fault, world) => (.error (.fault fault), world)

def orStop {α : Type} (result : Except Fault α) : Work σ α :=
  match result with
  | .ok value => return value
  | .error fault => throw (.fault fault)

namespace Desk

variable (desk : Desk σ)

def printLines : List String → Action σ Unit
  | [] => return ()
  | line :: rest => do
      desk.print line
      printLines rest

def tell (markup : String) : Action σ Unit := do
  let text ← liftM (Markup.plain markup)
  desk.printLines (text.splitOn "\n")

def say (markup : String) : Work σ Unit := act (desk.tell markup)

def refuse {α : Type} (markup : String) : Work σ α := do
  desk.say markup
  throw (.exit 1)

/-! ## Tables -/

def columns (header : List String) (rows : List (List String)) : List (List String) :=
  header.zipIdx.map fun (title, index) => title :: rows.map fun row => row.getD index ""

/-- The lines of a cell, as many as its row has, each as wide as its column. -/
def cellLines (height width : Nat) (cell : List String) : List String :=
  (cell ++ List.replicate (height - cell.length) "").map fun line =>
    line ++ String.ofList (List.replicate (width - line.length) ' ')

def layRows (table : List (List (List String))) : List String :=
  let count := ((table.map List.length).max?).getD 0
  let height (row : Nat) : Nat :=
    ((table.map fun column => (column.getD row []).length).max?).getD 0
  let width (column : List (List String)) : Nat :=
    ((column.flatten.map String.length).max?).getD 0
  let row (index : Nat) : List String :=
    let cells := table.map fun column =>
      cellLines (height index) (width column) (column.getD index [])
    (List.range (height index)).map fun line =>
      "  ".intercalate (cells.map fun cell => cell.getD line "")
  (List.range count).flatMap row

def table (header : List String) (rows : List (List String)) : Work σ Unit := do
  let shown ← (columns header rows).mapM fun column => column.mapM fun cell =>
    orStop (Markup.plain cell)
  act (desk.printLines (layRows (shown.map fun column => column.map fun cell => cell.splitOn "\n")))

end Desk

end Gleaner.Cli
