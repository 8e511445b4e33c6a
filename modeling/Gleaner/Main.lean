import Gleaner.Cli.Terminal
import Std.Time.DateTime.Timestamp

/-!
# The program

Reads what the commands may look at, lets them work on it, and then writes what they changed
and what they said.
-/

set_option autoImplicit false

namespace Gleaner.Program

/-- The text of a file that is there and can be read. -/
def text? (path : String) : IO (Option String) := do
  try return some (← IO.FS.readFile path) catch _ => return none

def addFile (path : String) (files : Files) : IO Files := do
  match ← text? path with
  | some text => return files.save path text
  | none => return files

/-- A folder that is there stands among the files as one without a name in it. -/
def addFolder (folder : String) (files : Files) : IO Files := do
  let present ← IO.currentDir
  if ← (present / folder).isDir then return Entries.put (folder ++ "/") "" files
  return files

def time : IO Float := do
  let now ← Std.Time.Timestamp.now
  return Decimal.ofInt (now.toNanosecondsSinceUnixEpoch.val / 1000) / 1000000

def environment : IO Environment := do
  return Cli.Terminal.variablesIn ((← text? "/proc/self/environ").getD "")

def find (args : List String) : IO Cli.Terminal := do
  let files ← (Cli.Terminal.paths args).foldlM (fun files path => addFile path files) []
  let files ← match Cli.Terminal.outputFolder? args with
    | some folder => addFolder folder files
    | none => pure files
  let environment ← environment
  let terminal : Cli.Terminal :=
    { time := ← time
      home := (Entries.find? "HOME" environment).getD "/"
      environment
      files }
  match terminal.storePath? args with
  | some path => return { terminal with files := ← addFile path terminal.files }
  | none => return terminal

def write (files : Files) : IO Unit :=
  files.forM fun (path, text) => do
    let folder := Files.folder path
    if folder ≠ "" then IO.FS.createDirAll folder
    IO.FS.writeFile path text

end Gleaner.Program

def main (args : List String) : IO UInt32 := do
  let found ← Gleaner.Program.find args
  let (ending, left) := found.serve args
  Gleaner.Program.write (Gleaner.Cli.Terminal.changed found.files left.files)
  left.printed.reverse.forM fun line => IO.println line
  match ending.fault with
  | some fault => IO.eprintln fault.text
  | none => if ending.code = 2 then Gleaner.Cli.usage.forM fun line => IO.eprintln line
  return ending.code.toUInt32
