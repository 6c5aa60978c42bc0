import BlueprintControl.Controller.Summary
import BlueprintControl.Output.Paint
import BlueprintControl.Output.Table
import BlueprintControl.Store.Record

/-!
# What is printed

The texts that the commands print, either for people or as JSON.

## Main definitions

* `Printer`: the format, and whether it is painted.
* `Printer.validation`, `Printer.pass`, `Printer.status`, `Printer.summary`, `Printer.warning`:
  the texts.
-/
namespace BlueprintControl

/-- For whom something is printed. -/
inductive OutputFormat where
  | text
  | json
  deriving DecidableEq, Repr

/-- How something is printed. -/
structure Printer where
  format : OutputFormat
  colored : Bool
  deriving DecidableEq, Repr

/-- The name of an outcome in JSON. -/
def Outcome.name : Outcome → String
  | .dryRun => "dry_run"
  | .completed => "completed"

/-- The statistics as a JSON value. -/
def Summary.toJson (s : Summary) : Json.Value :=
  .object [("notifications", .nat s.notifications), ("debounced", .nat s.debounced),
    ("blueprints", .object (s.rows.map fun (key, b) =>
      (key, .object [("passes", .nat b.passes), ("failures", .nat b.failures),
        ("last_decision", .ofOption b.lastDecision)])))]

namespace Printer

/-- The longest message in a table of conditions. -/
def conditionLimit : Nat := 50

/-- The longest message in a table of events. -/
def eventLimit : Nat := 60

/-- How many events are shown. -/
def shownEvents : Nat := 20

/-- A text of at most a number of characters; a longer one ends in dots. -/
def shorten (s : String) (limit : Nat) : String :=
  let cs := s.toList
  if cs.length ≤ limit then s else String.ofList (cs.take (limit - 3) ++ ['.', '.', '.'])

/-- A truth value in a text. -/
def truth (b : Bool) : String := if b then "true" else "false"

variable (p : Printer)

/-- Paints a text if colours are wanted. -/
def paint (paint : Paint) (text : String) : String := paint.apply p.colored text

/-- The result of checking the actions of a diff. -/
def validation (id : String) (d : StateDiff) (error : Option String) : String :=
  match p.format with
  | .json => (Json.Value.object [("blueprint", .string id), ("valid", .bool error.isNone),
      ("doguDiffs", .nat d.dogus.length), ("componentDiffs", .nat d.components.length),
      ("configDiffs", .nat d.config.length), ("error", .ofOption error)]).pretty
  | .text =>
    "Blueprint " ++ p.paint .bold id ++ ": " ++ toString d.dogus.length ++ " dogu, "
      ++ toString d.components.length ++ " component, " ++ toString d.config.length
      ++ " config diffs\n"
      ++ (match error with
        | none => p.paint .green "✓" ++ " All needed actions are allowed\n"
        | some e => p.paint .red "✗" ++ " " ++ e ++ "\n")

/-- The row of a condition. -/
def conditionRow (c : Condition) : List String :=
  [c.type.name,
    p.paint (match c.status with
      | .holds => .green
      | .fails => .red
      | .unknown => .dimmed) c.status.name,
    c.reason, shorten c.message conditionLimit, c.since.clock]

/-- The table of the conditions. -/
def conditions (cs : Conditions) : String :=
  if cs.entries.isEmpty then p.paint .dimmed "No conditions recorded yet." ++ "\n"
  else
    (Table.mk ["Type", "Status", "Reason", "Message", "Since"]
      (cs.entries.map p.conditionRow)).render ++ "\n"

/-- How a pass ended. -/
def outcome (r : Report) : String :=
  match r.outcome, r.error with
  | some .dryRun, _ => p.paint .cyan "dry run"
  | some .completed, _ => p.paint .green "completed"
  | none, some e => p.paint .red "failed" ++ " (" ++ e ++ ")"
  | none, none => p.paint .yellow "stopped"

/-- The end of a pass, with the conditions of the blueprint if they are known. -/
def pass (r : Report) (stored : Option Blueprint) : String :=
  match p.format with
  | .json => (Json.Value.object [("blueprint", .string r.blueprint),
      ("outcome", .ofOption (r.outcome.map Outcome.name)), ("error", .ofOption r.error),
      ("decision", .string r.decision.text),
      ("conditions", match stored with
        | some b => b.conditions.toJson
        | none => .null)]).pretty
  | .text =>
    "\nPass for " ++ p.paint .bold r.blueprint ++ ": " ++ p.outcome r ++ "\n"
      ++ "Next: " ++ r.decision.text ++ "\n"
      ++ (match stored with
        | some b => "\n" ++ p.conditions b.conditions
        | none => "")

/-- The row of an event. -/
def eventRow (e : RecordedEvent) : List String :=
  [e.time.dateAndClock, e.name, shorten e.message eventLimit]

/-- The stored status of a blueprint with its events, the latest first. -/
def status (b : Blueprint) (events : List RecordedEvent) : String :=
  match p.format with
  | .json => (Json.Value.object [("blueprint", .string b.id), ("completed", .bool b.isCompleted),
      ("conditions", b.conditions.toJson),
      ("events", .array (events.map RecordedEvent.toJson))]).pretty
  | .text =>
    "\nBlueprint " ++ p.paint .bold b.id ++ " ("
      ++ (if b.isCompleted then p.paint .green "completed" else p.paint .yellow "in progress")
      ++ ")\n   dry run: " ++ truth b.config.dryRun ++ ", namespace switch allowed: "
      ++ truth b.config.allowNamespaceSwitch ++ "\n\n" ++ p.conditions b.conditions
      ++ (if events.isEmpty then ""
        else "\nRecent events:\n" ++ (Table.mk ["Time", "Event", "Message"]
          ((events.reverse.take shownEvents).map eventRow)).render ++ "\n")

/-- The row of a blueprint in the statistics. -/
def summaryRow (row : String × BlueprintSummary) : List String :=
  [row.1, toString row.2.passes, toString row.2.failures, row.2.lastDecision.getD "-"]

/-- The statistics of a run. -/
def summary (s : Summary) : String :=
  match p.format with
  | .json => s.toJson.pretty
  | .text =>
    "\nNotifications: " ++ toString s.notifications ++ ", debounced: "
      ++ p.paint .yellow (toString s.debounced) ++ "\n"
      ++ (if s.rows.isEmpty then ""
        else (Table.mk ["Blueprint", "Passes", "Failures", "Last decision"]
          (s.rows.map summaryRow)).render ++ "\n")

/-- A warning. -/
def warning (message : String) : String :=
  match p.format with
  | .json => (Json.Value.object [("message", .string message),
      ("status", .string "warning")]).pretty
  | .text => p.paint .yellow "⚠" ++ " " ++ message

end Printer
end BlueprintControl
