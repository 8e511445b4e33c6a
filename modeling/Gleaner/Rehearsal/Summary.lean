import Gleaner.Harvest
import Gleaner.Json.Parts
import Gleaner.Rehearsal.World
import Gleaner.Run.Session

/-!
# Summaries

What is to be told of a rehearsal: the state of a run, the outcome of a command, and what the
collaborators were asked. Long texts are abridged.
-/

set_option autoImplicit false

namespace Gleaner.Rehearsal

def abridged (text : String) : Json :=
  let length := text.length
  if length > 900 then
    .obj
      [("len", .int length), ("head", .str (Text.take 150 text)),
        ("tail", .str (String.ofList (text.toList.drop (length - 150))))]
  else .str text

def microTime (seconds : Float) : Json :=
  Json.orNull .int (Decimal.floor? (seconds * 1000000 + 0.5))

def requestSummary (request : RepairRequest) : Json :=
  .obj
    [("command", .str request.command.tag), ("binding", .str request.binding),
      ("current", Json.orNull id request.current), ("error", .str request.error),
      ("dom", abridged request.dom)]

def outcomeSummary : Outcome → Json
  | .ok report =>
      .obj
        [("success", .bool true), ("error", .null), ("data", .obj report.toFields),
          ("repairable", .bool false)]
  | .failed error repairable =>
      .obj
        [("success", .bool false), ("error", .str error), ("data", .obj []),
          ("repairable", .bool repairable)]

def sessionSummary (session : Session World) : Json :=
  let run := session.run
  let itemSummary (item : Item) : Json :=
    .arr [.str item.id, .str item.label, .str item.content, microTime item.savedAt]
  .obj
    [("collected", .int run.collected.length), ("processed", .int run.processed.length),
      ("current_item", .ofString? (run.current.map (·.id))),
      ("checkpoint_item_count", .int run.checkpoint), ("should_stop", .bool run.stopped),
      ("stats", run.stats.toJson), ("focus", .ofString? (run.focus.map ElementRef.describe)),
      ("index", .int run.currentIndex), ("content", .ofString? run.content),
      ("no_new", .int run.staleRounds), ("should_continue", .bool run.skipping),
      ("processed_ids", .ofStrings (run.processed.mergeSort (· ≤ ·))),
      ("items", .arr (run.collected.map itemSummary)),
      ("version", .int session.bindings.version), ("clock", .int session.world.us)]

def callSummary (call : Completion) : Json :=
  .obj
    [("model", .ofString? call.model),
      ("temperature", Fault.numberJson (some call.temperature)),
      ("roles", .ofStrings (call.messages.map fun message => message.role.name)),
      ("user", Json.orNull (fun message => abridged message.content) call.messages.getLast?),
      ("system_len", Json.orNull (fun message => .int message.content.length)
        call.messages.head?)]

def ScriptedModel.summary (model : ScriptedModel) : Json :=
  .arr (model.calls.map callSummary)

def tallySummary (tally : Tally) : Json :=
  .obj
    [("total_calls", .int tally.calls), ("failed_calls", .int tally.failed),
      ("total_tokens", Fault.numberJson (some tally.tokens))]

end Gleaner.Rehearsal
