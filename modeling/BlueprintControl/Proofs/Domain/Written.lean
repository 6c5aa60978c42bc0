import BlueprintControl.Domain.Blueprint
import BlueprintControl.Proofs.Schema.Reading
import BlueprintControl.Proofs.Time.Stamp

/-!
# Reading back domain values

Conditions, flags and state diffs are read back from the values they are written as. The actions
of a diff entry come back once each, which is all that an entry made by `DiffEntry.make` has.

## Main definitions

* `StateDiff.remade`: every entry with each of its actions once.

## Main statements

* `Conditions.read_toJson`, `BlueprintConfig.read_toJson`: these come back as they were.
* `StateDiff.read_toJson`: a state diff comes back remade.
-/
namespace BlueprintControl

open RecordReader

variable (source : Json.Source)

/-! ## Conditions -/

theorem ConditionType.lookup_name (t : ConditionType) : table.lookup t.name = some t := by
  cases t <;> rfl

theorem Status.lookup_name (s : Status) : table.lookup s.name = some s := by
  cases s <;> rfl

theorem Condition.readStamp_render (s : Stamp) :
    Condition.readStamp (Json.format source) (.string s.render) = .ok s := by
  simp [Condition.readStamp, Json.format, Json.text, Stamp.parse_render, bind, Except.bind, pure,
    Except.pure]

theorem Condition.read_toJson (c : Condition) :
    Condition.read (Json.format source) c.toJson = .ok c := by
  refine Json.record_object rfl
    (map_value (a := (c.type, c.status, c.reason, c.message, c.since)) ?_ rfl)
  exact both_value
    (required_value rfl (Json.oneOf_string source (ConditionType.lookup_name c.type)))
    (both_value (required_value rfl (Json.oneOf_string source (Status.lookup_name c.status)))
      (both_value (required_value rfl rfl)
        (both_value (required_value rfl rfl)
          (required_value rfl (Condition.readStamp_render source c.since)))))

theorem Conditions.read_toJson (cs : Conditions) :
    Conditions.read (Json.format source) cs.toJson = .ok cs := by
  have hlist := Json.list_array source (Condition.read_toJson source) cs.entries
  simp only [Conditions.read, Conditions.toJson, hlist]
  simp [bind, Except.bind, pure, Except.pure]

/-! ## Flags -/

theorem BlueprintConfig.read_toJson (c : BlueprintConfig) :
    BlueprintConfig.read (Json.format source) c.toJson = .ok c := by
  refine Json.record_object rfl (map_value
    (a := (c.allowNamespaceSwitch, c.dryRun, c.ignoreDoguHealth, c.ignoreComponentHealth)) ?_ rfl)
  exact both_value (optional_value rfl rfl) (both_value (optional_value rfl rfl)
    (both_value (optional_value rfl rfl) (optional_value rfl rfl)))

/-! ## State diffs -/

theorem Action.lookup_token (a : Action) : table.lookup a.token = some a := by
  cases a <;> rfl

theorem ConfigAction.lookup_token (a : ConfigAction) : table.lookup a.token = some a := by
  cases a <;> rfl

/-- The entry with each of its actions once. -/
def DiffEntry.remade {σ α : Type} [DecidableEq α] (e : DiffEntry σ α) : DiffEntry σ α :=
  .make e.name e.actual e.expected e.needed

/-- The state diff as it is stored: every entry has each of its actions once. -/
def StateDiff.remade (d : StateDiff) : StateDiff :=
  ⟨d.dogus.map DiffEntry.remade, d.components.map DiffEntry.remade,
    d.config.map DiffEntry.remade⟩

theorem Snapshot.read_toJson (type : String) (s : Snapshot) :
    Snapshot.read (Json.format source) type s.toJson = .ok s := by
  refine Json.record_object rfl (map_value (a := (s.ns, s.version, s.installed)) ?_ rfl)
  exact both_value (optional_value rfl (Json.nullable_ofOption source s.ns))
    (both_value (optional_value rfl (Json.nullable_ofOption source s.version))
      (optional_value rfl rfl))

theorem ConfigSnapshot.read_toJson (s : ConfigSnapshot) :
    ConfigSnapshot.read (Json.format source) s.toJson = .ok s :=
  Json.record_object rfl
    (map_value (optional_value rfl (Json.nullable_ofOption source s.value)) rfl)

/-- An entry is read back when its snapshots and its actions are. -/
theorem DiffEntry.read_toJson {σ α : Type} [DecidableEq α]
    {snapshot : Json.Value → Except Fault σ} {write : σ → Json.Value} {blank : σ}
    {table : List (String × α)} {token : α → String} (hsnapshot : ∀ s, snapshot (write s) = .ok s)
    (htoken : ∀ a, table.lookup (token a) = some a) (e : DiffEntry σ α) :
    DiffEntry.read (Json.format source) snapshot blank table (e.toJson write token)
      = .ok e.remade := by
  have hactions : readActions (Json.format source) table
      (.array (e.needed.map fun a => .string (token a))) = .ok (distinct e.needed) := by
    have hlist := Json.list_array source (f := id)
      (fun a => Json.oneOf_string source (htoken a)) e.needed
    simp only [readActions, hlist, List.map_id]
    simp [bind, Except.bind, pure, Except.pure]
  refine Json.record_object rfl
    (map_value (a := (e.name, e.actual, e.expected, distinct e.needed)) ?_ rfl)
  exact both_value (required_value rfl rfl)
    (both_value (optional_value rfl (hsnapshot e.actual))
      (both_value (optional_value rfl (hsnapshot e.expected)) (optional_value rfl hactions)))

theorem readDogu_toJson (e : DoguDiff) :
    readDogu (Json.format source) (unitToJson e) = .ok e.remade :=
  DiffEntry.read_toJson source (Snapshot.read_toJson source _) Action.lookup_token e

theorem readComponent_toJson (e : ComponentDiff) :
    readComponent (Json.format source) (unitToJson e) = .ok e.remade :=
  DiffEntry.read_toJson source (Snapshot.read_toJson source _) Action.lookup_token e

theorem readConfigEntry_toJson (e : ConfigDiff) :
    readConfigEntry (Json.format source) (configEntryToJson e) = .ok e.remade :=
  DiffEntry.read_toJson source (ConfigSnapshot.read_toJson source) ConfigAction.lookup_token e

theorem StateDiff.read_toJson (d : StateDiff) :
    StateDiff.read (Json.format source) d.toJson = .ok d.remade := by
  refine Json.record_object rfl (map_value
    (a := (d.dogus.map DiffEntry.remade, d.components.map DiffEntry.remade,
      d.config.map DiffEntry.remade)) ?_ rfl)
  exact both_value (optional_value rfl (Json.list_array source (readDogu_toJson source) d.dogus))
    (both_value
      (optional_value rfl (Json.list_array source (readComponent_toJson source) d.components))
      (optional_value rfl (Json.list_array source (readConfigEntry_toJson source) d.config)))

end BlueprintControl
