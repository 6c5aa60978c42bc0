import BlueprintControl.Domain.Event
import BlueprintControl.Domain.Failure

/-!
# Blueprints

A `Blueprint` is what a pass works on: flags, conditions, the latest state diff, the events that
have not been published yet, and the version of the stored document it was loaded from.

## Main definitions

* `BlueprintConfig`: the flags of a blueprint.
* `ResourceVersion`: the version of a stored document.
* `Blueprint`: the blueprint itself.
-/
namespace BlueprintControl

/-- The flags of a blueprint. -/
structure BlueprintConfig where
  /-- Dogus may move between namespaces. -/
  allowNamespaceSwitch : Bool
  /-- The state diff is determined and nothing is applied. -/
  dryRun : Bool
  ignoreDoguHealth : Bool
  ignoreComponentHealth : Bool
  deriving DecidableEq, Repr, Inhabited

namespace BlueprintConfig

/-- No flag is set. -/
def plain : BlueprintConfig := ⟨false, false, false, false⟩

/-- Reads the flags. -/
def read {ν : Type} (F : Format ν) : ν → Except Fault BlueprintConfig :=
  F.record "BlueprintConfig"
    (((RecordReader.optional "allowDoguNamespaceSwitch" F.flag false).both
      ((RecordReader.optional "dryRun" F.flag false).both
        ((RecordReader.optional "ignoreDoguHealth" F.flag false).both
          (RecordReader.optional "ignoreComponentHealth" F.flag false)))).map
      fun (s, d, h, c) => ⟨s, d, h, c⟩)

/-- The flags as a JSON value. -/
def toJson (c : BlueprintConfig) : Json.Value :=
  .object [("allowDoguNamespaceSwitch", .bool c.allowNamespaceSwitch),
    ("dryRun", .bool c.dryRun), ("ignoreDoguHealth", .bool c.ignoreDoguHealth),
    ("ignoreComponentHealth", .bool c.ignoreComponentHealth)]

end BlueprintConfig

/-- The version of a stored document. -/
structure ResourceVersion where
  token : String
  deriving DecidableEq, Repr, Inhabited

/-- A blueprint in memory. -/
structure Blueprint where
  id : String
  config : BlueprintConfig
  conditions : Conditions
  diff : StateDiff
  /-- Events that have not been published. -/
  pending : List Event
  /-- The version the blueprint was loaded at or written as. -/
  version : Option ResourceVersion
  deriving DecidableEq, Inhabited

namespace Blueprint

/-- A blueprint that has never been stored. -/
def fresh (id : String) (config : BlueprintConfig) : Blueprint :=
  ⟨id, config, .empty, .empty, [], none⟩

/-- Whether the blueprint has been loaded or written. -/
def isPersisted (b : Blueprint) : Bool := b.version.isSome

/-- The version, which only stored blueprints have. -/
def version? (b : Blueprint) : Except Failure ResourceVersion :=
  match b.version with
  | some v => .ok v
  | none => .error (.internal ("blueprint '" ++ b.id
      ++ "' has no resource version; it was not loaded from storage"))

/-- Appends an event. -/
def record (b : Blueprint) (e : Event) : Blueprint := { b with pending := b.pending ++ [e] }

/-- Forgets the events, once they are published. -/
def drained (b : Blueprint) : Blueprint := { b with pending := [] }

/-- Whether the blueprint has been applied completely once. -/
def isCompleted (b : Blueprint) : Bool := b.conditions.isTrue .completed

end Blueprint
end BlueprintControl
