import Gleaner.Json.Value
import Gleaner.Json.Same

/-!
# Traces

The calls made on collaborators, in order. A call that repeats the one before it only raises
a count, and a full trace only counts what follows.
-/

set_option autoImplicit false

namespace Gleaner.Rehearsal

structure Call where
  name : String
  args : List Json

def Call.toJson (call : Call) : Json :=
  .arr (.str call.name :: call.args)

structure TraceEntry where
  call : Call
  times : Nat := 1

structure Trace where
  /-- The latest entry first. -/
  entries : List TraceEntry := []
  /-- Calls that came after the trace was full. -/
  more : Nat := 0

namespace Trace

def capacity : Nat := 400

def add (call : Call) (trace : Trace) : Trace :=
  if trace.entries.length ≥ capacity then { trace with more := trace.more + 1 }
  else
    match trace.entries with
    | last :: rest =>
        if last.call.toJson.same call.toJson then
          { trace with entries := { last with times := last.times + 1 } :: rest }
        else { trace with entries := { call } :: trace.entries }
    | [] => { trace with entries := [{ call }] }

private def entryJson (entry : TraceEntry) : Json :=
  let repeats := if entry.times = 1 then [] else [Json.str s!"x{entry.times}"]
  .arr (.str entry.call.name :: entry.call.args ++ repeats)

def toJson (trace : Trace) : Json :=
  let rest := if trace.more = 0 then [] else [Json.arr [.str "more", .int trace.more]]
  .arr (trace.entries.reverse.map entryJson ++ rest)

end Trace

end Gleaner.Rehearsal
