import Gleaner.Bindings.Match
import Gleaner.Bindings.Wire
import Gleaner.Json.Reader
import Gleaner.Json.Writer
import Gleaner.Page

/-!
# Stores

A store keeps records under ids. Its operations are said once, over a medium that can be
loaded and saved as a whole: memory, which is the records themselves, or the text of a file.
A writer may name the version it started from; when the stored record has moved on, the write
is refused and nothing changes.
-/

set_option autoImplicit false

namespace Gleaner

abbrev Records := Entries PageBindings

/-- What records are kept in; loading takes the present time for records without one. -/
structure Medium (τ : Type) where
  load : Float → τ → Except Fault Records
  save : Records → τ

namespace Medium

def memory : Medium Records :=
  { load := fun _ records => .ok records
    save := id }

/-- The records of an object; entries that are no records are passed over. -/
def readEntries (now : Float) : List (String × Json) → Except Fault Records
  | [] => .ok []
  | (id, value) :: rest => do
      match PageBindings.ofJson now value with
      | .ok record => return (id, record) :: (← readEntries now rest)
      | .error (.malformed _ _) => readEntries now rest
      | .error fault => throw fault

/-- The records in the text of a file; a text that is no object holds none. -/
def readText (now : Float) (text : String) : Except Fault Records :=
  match Json.read text with
  | .ok (.obj fields) => readEntries now fields
  | _ => .ok []

def toText (records : Records) : String :=
  Json.writeIndented 2 (.obj (records.mapValues PageBindings.toJson))

def file : Medium (Option String) :=
  { load := fun now text =>
      match text with
      | some text => readText now text
      | none => .ok []
    save := fun records => some (toText records) }

variable {τ : Type} (medium : Medium τ) (now : Float)

def get (id : String) (kept : τ) : Except Fault (Option PageBindings) := do
  return Entries.find? id (← medium.load now kept)

def all (kept : τ) : Except Fault (List PageBindings) := do
  return Entries.values (← medium.load now kept)

/-- Keeps a record under its id, if the stored one still has the expected version. -/
def put (record : PageBindings) (expected : Option Int) (kept : τ) : Except Fault τ := do
  let records ← medium.load now kept
  match expected, Entries.find? record.id records with
  | some version, some stored =>
      if stored.version ≠ version then
        throw (.staleBindings record.id version stored.version)
  | _, _ => pure ()
  return medium.save (Entries.put record.id record records)

/-- Removes a record; whether there was one. -/
def delete (id : String) (kept : τ) : Except Fault (Bool × τ) := do
  let records ← medium.load now kept
  if records.has id then return (true, medium.save (Entries.erase id records))
  else return (false, kept)

def matching (url : String) : List PageBindings → Except Fault (List PageBindings)
  | [] => .ok []
  | record :: rest => do
      let belongs ← (record.matchesUrl url).mapError Fault.badUrl
      let more ← matching url rest
      return if belongs then record :: more else more

/-- The latest of some records; the first of equals. -/
def latest : List PageBindings → Option PageBindings
  | [] => none
  | record :: rest =>
      some (rest.foldl (fun best next => if best.updatedAt < next.updatedAt then next else best)
        record)

def query (url : String) (kept : τ) : Except Fault (Option PageBindings) := do
  return latest (← matching url (← medium.all now kept))

/-- Removes records by their ids; how many there were. -/
def deleteEach (kept : τ) : List PageBindings → Except Fault (Nat × τ)
  | [] => .ok (0, kept)
  | record :: rest => do
      let (removed, kept) ← medium.delete now record.id kept
      let (count, kept) ← deleteEach kept rest
      return (if removed then count + 1 else count, kept)

/-- Removes the records that belong to a URL; how many there were. -/
def clearForUrl (url : String) (kept : τ) : Except Fault (Nat × τ) := do
  medium.deleteEach now kept (← matching url (← medium.all now kept))

def clear : τ := medium.save []

end Medium

/-- What a run needs of a store. -/
structure Store (σ : Type) where
  query : String → Action σ (Option PageBindings)
  put : PageBindings → Option Int → Action σ Unit

def Medium.store {σ τ : Type} (medium : Medium τ) (clock : Clock σ) (kept : σ → τ)
    (keep : τ → σ → σ) : Store σ :=
  { query := fun url world => (medium.query (clock.time world) url (kept world), world)
    put := fun record expected world =>
      match medium.put (clock.time world) record expected (kept world) with
      | .ok changed => (.ok (), keep changed world)
      | .error fault => (.error fault, world) }

end Gleaner
