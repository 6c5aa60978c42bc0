import BlueprintControl.Json.Format

/-!
# State diffs

A state diff lists, for dogus, components and config entries, what is there, what should be there
and which actions lead from one to the other. An entry that needs no action has converged.

## Main definitions

* `Action`, `ConfigAction`: what can be needed.
* `DiffEntry`, `StateDiff`: the entries of one kind, and all of them.
* `DiffEntry.make`: an entry whose actions are listed once each, in order of first mention.
* `countActions`: how often each action is needed, in order of first occurrence.
-/
namespace BlueprintControl

/-- What a dogu or a component may need. -/
inductive Action where
  | install
  | uninstall
  | upgrade
  | downgrade
  | switchDoguNamespace
  | switchComponentNamespace
  | updateComponentDeployConfig
  | updateDoguVolumeSize
  | updateDoguProxyBodySize
  | updateDoguAdditionalMounts
  deriving DecidableEq, Repr

/-- What a config entry may need. -/
inductive ConfigAction where
  | set
  | remove
  deriving DecidableEq, Repr

/-- The token of an action. -/
def Action.token : Action → String
  | .install => "install"
  | .uninstall => "uninstall"
  | .upgrade => "upgrade"
  | .downgrade => "downgrade"
  | .switchDoguNamespace => "switch-dogu-namespace"
  | .switchComponentNamespace => "switch-component-namespace"
  | .updateComponentDeployConfig => "update-component-deploy-config"
  | .updateDoguVolumeSize => "update-dogu-volume-size"
  | .updateDoguProxyBodySize => "update-dogu-proxy-body-size"
  | .updateDoguAdditionalMounts => "update-dogu-additional-mounts"

/-- The token of a config action. -/
def ConfigAction.token : ConfigAction → String
  | .set => "set"
  | .remove => "remove"

/-- All actions with their tokens. -/
def Action.table : List (String × Action) :=
  [.install, .uninstall, .upgrade, .downgrade, .switchDoguNamespace, .switchComponentNamespace,
    .updateComponentDeployConfig, .updateDoguVolumeSize, .updateDoguProxyBodySize,
    .updateDoguAdditionalMounts].map fun (a : Action) => (a.token, a)

/-- All config actions with their tokens. -/
def ConfigAction.table : List (String × ConfigAction) :=
  [.set, .remove].map fun (a : ConfigAction) => (a.token, a)

/-- How a dogu or a component is, or should be. -/
structure Snapshot where
  ns : Option String
  version : Option String
  installed : Bool
  deriving DecidableEq, Repr, Inhabited

/-- The value a config entry has, or should have. -/
structure ConfigSnapshot where
  value : Option String
  deriving DecidableEq, Repr, Inhabited

/-- The difference of one named thing, with snapshots `σ` and actions `α`. -/
structure DiffEntry (σ α : Type) where
  name : String
  actual : σ
  expected : σ
  needed : List α
  deriving DecidableEq, Repr

/-- The difference of a dogu. -/
abbrev DoguDiff := DiffEntry Snapshot Action

/-- The difference of a component. -/
abbrev ComponentDiff := DiffEntry Snapshot Action

/-- The difference of a config entry. -/
abbrev ConfigDiff := DiffEntry ConfigSnapshot ConfigAction

section Entries

variable {σ α : Type} [DecidableEq α]

/-- Keeps the first mention of each item, given those kept before. -/
def keepFirst (kept : List α) : List α → List α
  | [] => []
  | a :: rest => if a ∈ kept then keepFirst kept rest else a :: keepFirst (a :: kept) rest

/-- The items without repeats, in order of first mention. -/
def distinct (as : List α) : List α := keepFirst [] as

/-- An entry with each action once. -/
def DiffEntry.make (name : String) (actual expected : σ) (actions : List α) : DiffEntry σ α :=
  ⟨name, actual, expected, distinct actions⟩

/-- Whether the entry needs an action. -/
def DiffEntry.hasChanges (e : DiffEntry σ α) : Bool := !e.needed.isEmpty

/-- Whether any entry needs an action. -/
def anyChanges (es : List (DiffEntry σ α)) : Bool := es.any DiffEntry.hasChanges

/-- Counts one more occurrence of an item. -/
def tally (a : α) : List (α × Nat) → List (α × Nat)
  | [] => [(a, 1)]
  | (b, n) :: rest => if b = a then (b, n + 1) :: rest else (b, n) :: tally a rest

/-- How often each action is needed, in order of first occurrence. -/
def countActions (es : List (DiffEntry σ α)) : List (α × Nat) :=
  (es.flatMap DiffEntry.needed).foldl (fun counts a => tally a counts) []

end Entries

/-- The difference between a blueprint and its ecosystem. -/
structure StateDiff where
  dogus : List DoguDiff
  components : List ComponentDiff
  config : List ConfigDiff
  deriving DecidableEq, Repr, Inhabited

namespace StateDiff

/-- No entries. -/
def empty : StateDiff := ⟨[], [], []⟩

/-- Whether a dogu needs an action. -/
def dogusHaveChanges (d : StateDiff) : Bool := anyChanges d.dogus

/-- Whether a component needs an action. -/
def componentsHaveChanges (d : StateDiff) : Bool := anyChanges d.components

/-- Whether a config entry needs an action. -/
def configHasChanges (d : StateDiff) : Bool := anyChanges d.config

/-- Whether anything needs an action. -/
def hasChanges (d : StateDiff) : Bool :=
  d.dogusHaveChanges || d.componentsHaveChanges || d.configHasChanges

end StateDiff

/-! ## Written form -/

section Reading

variable {ν σ α : Type} [DecidableEq α]

/-- Reads a snapshot of a dogu or a component. -/
def Snapshot.read (F : Format ν) (type : String) : ν → Except Fault Snapshot :=
  F.record type
    (((RecordReader.optional "namespace" (F.nullable F.string) none).both
      ((RecordReader.optional "version" (F.nullable F.string) none).both
        (RecordReader.optional "installed" F.flag false))).map fun (n, v, i) => ⟨n, v, i⟩)

/-- Reads a snapshot of a config entry. -/
def ConfigSnapshot.read (F : Format ν) : ν → Except Fault ConfigSnapshot :=
  F.record "ConfigSnapshot"
    ((RecordReader.optional "value" (F.nullable F.string) none).map ConfigSnapshot.mk)

/-- Reads a list of actions and drops repeats. -/
def readActions (F : Format ν) (table : List (String × α)) (v : ν) : Except Fault (List α) := do
  return distinct (← F.list (F.oneOf table) v)

/-- Reads an entry, given how its snapshots and actions are read. -/
def DiffEntry.read (F : Format ν) (snapshot : ν → Except Fault σ) (blank : σ)
    (table : List (String × α)) : ν → Except Fault (DiffEntry σ α) :=
  F.record "DiffEntry"
    (((RecordReader.required "name" F.string).both
      ((RecordReader.optional "actual" snapshot blank).both
        ((RecordReader.optional "expected" snapshot blank).both
          (RecordReader.optional "neededActions" (readActions F table) [])))).map
      fun (n, a, e, k) => ⟨n, a, e, k⟩)

/-- Reads the entry of a dogu. -/
def readDogu (F : Format ν) : ν → Except Fault DoguDiff :=
  DiffEntry.read F (Snapshot.read F "DoguSnapshot") default Action.table

/-- Reads the entry of a component. -/
def readComponent (F : Format ν) : ν → Except Fault ComponentDiff :=
  DiffEntry.read F (Snapshot.read F "ComponentSnapshot") default Action.table

/-- Reads a config entry. -/
def readConfigEntry (F : Format ν) : ν → Except Fault ConfigDiff :=
  DiffEntry.read F (ConfigSnapshot.read F) default ConfigAction.table

/-- Reads a state diff. -/
def StateDiff.read (F : Format ν) : ν → Except Fault StateDiff :=
  F.record "StateDiff"
    (((RecordReader.optional "doguDiffs" (F.list (readDogu F)) []).both
      ((RecordReader.optional "componentDiffs" (F.list (readComponent F)) []).both
        (RecordReader.optional "configDiffs" (F.list (readConfigEntry F)) []))).map
      fun (d, c, k) => ⟨d, c, k⟩)

end Reading

/-- The snapshot as a JSON value. -/
def Snapshot.toJson (s : Snapshot) : Json.Value :=
  .object [("namespace", .ofOption s.ns), ("version", .ofOption s.version),
    ("installed", .bool s.installed)]

/-- The snapshot as a JSON value. -/
def ConfigSnapshot.toJson (s : ConfigSnapshot) : Json.Value :=
  .object [("value", .ofOption s.value)]

/-- The entry as a JSON value. -/
def DiffEntry.toJson {σ α : Type} (snapshot : σ → Json.Value) (token : α → String)
    (e : DiffEntry σ α) : Json.Value :=
  .object [("name", .string e.name), ("actual", snapshot e.actual),
    ("expected", snapshot e.expected),
    ("neededActions", .array (e.needed.map fun a => .string (token a)))]

/-- The entry of a dogu or a component as a JSON value. -/
def unitToJson (e : DiffEntry Snapshot Action) : Json.Value :=
  e.toJson Snapshot.toJson Action.token

/-- The config entry as a JSON value. -/
def configEntryToJson (e : ConfigDiff) : Json.Value :=
  e.toJson ConfigSnapshot.toJson ConfigAction.token

/-- The state diff as a JSON value. -/
def StateDiff.toJson (d : StateDiff) : Json.Value :=
  .object [("doguDiffs", .array (d.dogus.map unitToJson)),
    ("componentDiffs", .array (d.components.map unitToJson)),
    ("configDiffs", .array (d.config.map configEntryToJson))]

end BlueprintControl
