import BlueprintControl.Policy.Actions
import BlueprintControl.Policy.Requeue
import BlueprintControl.Scheduling.Backoff
import BlueprintControl.Text.Blank
import BlueprintControl.Yaml.Format

/-!
# Settings of the operator

The settings are read from a YAML file in which everything may be left out. They determine the
window of the debouncer, the requeue policy, the backoff and the actions that are denied.

## Main definitions

* `RequeueSettings`, `Settings`: the settings with their standard values.
* `Settings.parse`: reads them from the text of a file.
-/
namespace BlueprintControl

/-- Delays in the units in which they are written, and markers of missing resources. -/
structure RequeueSettings where
  conflictMillis : UInt64
  retrySeconds : UInt64
  diffNotEmptyMillis : UInt64
  backoffBaseMillis : UInt64
  backoffLongestSeconds : UInt64
  markers : List String
  deriving DecidableEq, Repr

namespace RequeueSettings

/-- The delays used unless others are set. -/
def standard : RequeueSettings := ⟨1000, 10, 1000, 500, 300, RequeuePolicy.standardMarkers⟩

/-- The policy for failures. -/
def policy (r : RequeueSettings) : RequeuePolicy :=
  ⟨.ofMillis r.conflictMillis, .ofSeconds r.retrySeconds, .ofMillis r.diffNotEmptyMillis,
    r.markers⟩

/-- The delays between retries. -/
def backoff (r : RequeueSettings) : Backoff :=
  .make (.ofMillis r.backoffBaseMillis) (.ofSeconds r.backoffLongestSeconds)

/-- Reads the delays and markers. -/
def read {ν : Type} (F : Format ν) : ν → Except Fault RequeueSettings :=
  let s := standard
  F.record "RequeueConfig"
    (((RecordReader.optional "conflict_delay_ms" F.count s.conflictMillis).both
      ((RecordReader.optional "retry_delay_secs" F.count s.retrySeconds).both
        ((RecordReader.optional "diff_not_empty_delay_ms" F.count s.diffNotEmptyMillis).both
          ((RecordReader.optional "error_backoff_base_ms" F.count s.backoffBaseMillis).both
            ((RecordReader.optional "error_backoff_max_secs" F.count
                s.backoffLongestSeconds).both
              (RecordReader.optional "missing_resource_markers" (F.list F.string)
                s.markers)))))).map
      fun (c, r, d, b, l, m) => ⟨c, r, d, b, l, m⟩)

/-- A number of 64 bits as a JSON value. -/
def countToJson (n : UInt64) : Json.Value := .number (.integer n.toNat)

/-- The delays and markers as a JSON value. -/
def toJson (r : RequeueSettings) : Json.Value :=
  .object [("conflict_delay_ms", countToJson r.conflictMillis),
    ("retry_delay_secs", countToJson r.retrySeconds),
    ("diff_not_empty_delay_ms", countToJson r.diffNotEmptyMillis),
    ("error_backoff_base_ms", countToJson r.backoffBaseMillis),
    ("error_backoff_max_secs", countToJson r.backoffLongestSeconds),
    ("missing_resource_markers", .array (r.markers.map .string))]

end RequeueSettings

/-- The settings of the operator. -/
structure Settings where
  ecosystem : String
  /-- Directory of the stored blueprints. -/
  statePath : String
  /-- How long a pass keeps further notifications from starting another. -/
  windowSeconds : UInt64
  requeue : RequeueSettings
  policy : ActionPolicy
  deriving DecidableEq, Repr

namespace Settings

/-- The directory in which blueprints are stored unless another is set. -/
def standardPath : String := ".blueprint"

/-- The settings of an empty file. -/
def standard : Settings := ⟨"ecosystem", standardPath, 10, .standard, .standard⟩

instance : Inhabited Settings := ⟨standard⟩

/-- The window of the debouncer. -/
def window (s : Settings) : Span := .ofSeconds s.windowSeconds

/-- Reads a section with a single field. -/
def readSection {ν α : Type} (F : Format ν) (name field : String) (read : ν → Except Fault α)
    (fallback : α) : ν → Except Fault α :=
  F.record name (RecordReader.optional field read fallback)

/-- Reads the settings. -/
def read {ν : Type} (F : Format ν) : ν → Except Fault Settings :=
  let s := standard
  F.record "OperatorConfig"
    (((RecordReader.optional "namespace" F.string s.ecosystem).both
      ((RecordReader.optional "state"
          (readSection F "StateConfig" "path" (F.text "path string") s.statePath)
          s.statePath).both
        ((RecordReader.optional "debounce"
            (readSection F "DebounceConfig" "window_secs" F.count s.windowSeconds)
            s.windowSeconds).both
          ((RecordReader.optional "requeue" (RequeueSettings.read F) s.requeue).both
            (RecordReader.optional "policy" (ActionPolicy.read F) s.policy))))).map
      fun (e, p, w, r, a) => ⟨e, p, w, r, a⟩)

/-- The settings as a JSON value. -/
def toJson (s : Settings) : Json.Value :=
  .object [("namespace", .string s.ecosystem),
    ("state", .object [("path", .string s.statePath)]),
    ("debounce", .object [("window_secs", RequeueSettings.countToJson s.windowSeconds)]),
    ("requeue", s.requeue.toJson), ("policy", s.policy.toJson)]

/-- Reads the settings from the text of a file; `source` is the path of the file. A blank text
sets nothing. -/
def parse (text : String) (source : Option String) : Except ConfigFailure Settings :=
  if Text.isBlankString text then .ok standard
  else (Yaml.decodeText read text).mapError fun f =>
    .parse ("YAML parse error: " ++ f.message) source

end Settings
end BlueprintControl
