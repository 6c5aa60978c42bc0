import BlueprintControl.Domain.Blueprint
import BlueprintControl.Json.Writer

/-!
# Stored records

The document in which a blueprint is stored: its flags, its conditions, its latest state diff and
the last events that were published, oldest first.

## Main definitions

* `RecordedEvent`: an event as it was published.
* `Record`: the document.
* `Record.appendEvents`: publishes events and keeps the last hundred.
* `Record.toJson`, `Record.read`: the written form and its reader.
-/
namespace BlueprintControl

/-- The format in which records are written and read. -/
def formatVersion : String := "1.0"

/-- How many published events are kept. -/
def historyLimit : Nat := 100

/-- An event as it was published. -/
structure RecordedEvent where
  id : Uuid
  time : Stamp
  name : String
  message : String
  deriving DecidableEq

/-- A stored blueprint. -/
structure Record where
  format : String
  id : String
  config : BlueprintConfig
  conditions : Conditions
  diff : StateDiff
  /-- Published events, oldest first. -/
  events : List RecordedEvent
  updated : Stamp
  deriving DecidableEq

namespace RecordedEvent

/-- An event as it is published at a time under an identifier. -/
def ofEvent (e : Event) (time : Stamp) (id : Uuid) : RecordedEvent := ⟨id, time, e.name, e.message⟩

/-- Reads an identifier. -/
def readId {ν : Type} (F : Format ν) (v : ν) : Except Fault Uuid := do
  let s ← F.text "a UUID string" v
  match Uuid.parse s with
  | .ok u => return u
  | .error e => throw (.here ("UUID parsing failed: " ++ e.message))

/-- Reads a published event. -/
def read {ν : Type} (F : Format ν) : ν → Except Fault RecordedEvent :=
  F.record "RecordedEvent"
    (((RecordReader.required "id" (readId F)).both
      ((RecordReader.required "timestamp" (Condition.readStamp F)).both
        ((RecordReader.required "name" F.string).both
          (RecordReader.required "message" F.string)))).map fun (i, t, n, m) => ⟨i, t, n, m⟩)

/-- The published event as a JSON value. -/
def toJson (e : RecordedEvent) : Json.Value :=
  .object [("id", .string e.id.render), ("timestamp", .string e.time.render),
    ("name", .string e.name), ("message", .string e.message)]

end RecordedEvent

namespace Record

/-- The record of a blueprint without events. -/
def ofBlueprint (b : Blueprint) (now : Stamp) : Record :=
  ⟨formatVersion, b.id, b.config, b.conditions, b.diff, [], now⟩

/-- The stored blueprint: nothing is pending and its version is not known yet. -/
def toBlueprint (r : Record) : Blueprint :=
  { Blueprint.fresh r.id r.config with conditions := r.conditions, diff := r.diff }

/-- The last events that are kept. -/
def keepLatest (es : List RecordedEvent) : List RecordedEvent := es.drop (es.length - historyLimit)

/-- Publishes events at a time; the identifiers are taken from a supply. -/
def appendEvents (r : Record) (es : List Event) (time : Stamp) (ids : Nat → Uuid) : Record :=
  let published := es.zipIdx.map fun p => RecordedEvent.ofEvent p.1 time (ids p.2)
  { r with events := keepLatest (r.events ++ published) }

/-! ## Written form -/

/-- Reads the part that holds the flags. -/
def readSpec {ν : Type} (F : Format ν) : ν → Except Fault BlueprintConfig :=
  F.record "RecordSpec" (RecordReader.optional "config" (BlueprintConfig.read F) .plain)

/-- Reads the part that holds conditions and state diff. -/
def readStatus {ν : Type} (F : Format ν) : ν → Except Fault (Conditions × StateDiff) :=
  F.record "RecordStatus"
    ((RecordReader.optional "conditions" (Conditions.read F) .empty).both
      (RecordReader.optional "state_diff" (StateDiff.read F) .empty))

/-- Reads a record. -/
def read {ν : Type} (F : Format ν) : ν → Except Fault Record :=
  F.record "BlueprintRecord"
    (((RecordReader.required "format_version" F.string).both
      ((RecordReader.required "id" F.string).both
        ((RecordReader.required "spec" (readSpec F)).both
          ((RecordReader.required "status" (readStatus F)).both
            ((RecordReader.optional "events" (F.list (RecordedEvent.read F)) []).both
              (RecordReader.required "last_updated" (Condition.readStamp F))))))).map
      fun (f, i, s, (c, d), e, u) => ⟨f, i, s, c, d, e, u⟩)

/-- The record as a JSON value. -/
def toJson (r : Record) : Json.Value :=
  .object [("format_version", .string r.format), ("id", .string r.id),
    ("spec", .object [("config", r.config.toJson)]),
    ("status", .object [("conditions", r.conditions.toJson), ("state_diff", r.diff.toJson)]),
    ("events", .array (r.events.map RecordedEvent.toJson)),
    ("last_updated", .string r.updated.render)]

/-- The document that is stored. -/
def document (r : Record) : String := r.toJson.pretty

/-- Reads a stored document. -/
def ofDocument (text : String) : Except TextFault Record := Json.decodeText read text

/-- Reads the content of a stored document. -/
def ofContent (content : ByteArray) : Except TextFault Record :=
  Json.decodeRead read (Json.Value.readOctets? content)

end Record
end BlueprintControl
