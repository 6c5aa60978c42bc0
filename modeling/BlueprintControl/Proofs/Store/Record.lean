import BlueprintControl.Proofs.Domain.Diff
import BlueprintControl.Proofs.Json.RoundTrip
import BlueprintControl.Proofs.Uuid
import BlueprintControl.Store.Record

/-!
# Reading back stored records

A record is read back from the octets of its document. Nothing but repeated actions of a diff
entry is lost, so that conditions and published events come back as they were written.

## Main definitions

* `Record.remade`: the record with each action of a diff entry once.

## Main statements

* `Record.isPlain_toJson`: a record is written without numbers.
* `Record.ofContent_document`: what is read from a stored document.
* `Record.reads_back_iff`: the records that are read back as they were written.
* `Record.remade_of_ofContent`: every record that is read is one of these.
-/
namespace BlueprintControl

open RecordReader

/-! ## Fields -/

section Fields

variable (source : Json.Source)

theorem RecordedEvent.readId_render (u : Uuid) :
    RecordedEvent.readId (Json.format source) (.string u.render) = .ok u := by
  simp [RecordedEvent.readId, Json.format, Json.text, Uuid.parse_render, bind, Except.bind, pure,
    Except.pure]

theorem RecordedEvent.read_toJson (e : RecordedEvent) :
    RecordedEvent.read (Json.format source) e.toJson = .ok e := by
  refine Json.record_object rfl (map_value (a := (e.id, e.time, e.name, e.message)) ?_ rfl)
  exact both_value (required_value rfl (RecordedEvent.readId_render source e.id))
    (both_value (required_value rfl (Condition.readStamp_render source e.time))
      (both_value (required_value rfl rfl) (required_value rfl rfl)))

namespace Record

/-- The record as it comes back from storage: every diff entry has each of its actions once. -/
def remade (r : Record) : Record := { r with diff := r.diff.remade }

theorem readSpec_object (c : BlueprintConfig) :
    readSpec (Json.format source) (.object [("config", c.toJson)]) = .ok c :=
  Json.record_object rfl (optional_value rfl (BlueprintConfig.read_toJson source c))

theorem readStatus_object (cs : Conditions) (d : StateDiff) :
    readStatus (Json.format source)
        (.object [("conditions", cs.toJson), ("state_diff", d.toJson)]) = .ok (cs, d.remade) :=
  Json.record_object rfl
    (both_value (optional_value rfl (Conditions.read_toJson source cs))
      (optional_value rfl (StateDiff.read_toJson source d)))

theorem read_toJson (r : Record) : read (Json.format source) r.toJson = .ok r.remade := by
  have hevents := Json.list_array source (RecordedEvent.read_toJson source) r.events
  rw [List.map_id'] at hevents
  refine Json.record_object rfl (map_value (a := (r.format, r.id, r.config,
    (r.conditions, r.diff.remade), r.events, r.updated)) ?_ rfl)
  exact both_value (required_value rfl rfl)
    (both_value (required_value rfl rfl)
      (both_value (required_value rfl (readSpec_object source r.config))
        (both_value (required_value rfl (readStatus_object source r.conditions r.diff))
          (both_value (optional_value rfl hevents)
            (required_value rfl (Condition.readStamp_render source r.updated))))))

end Record
end Fields

/-! ## Values without numbers -/

theorem Json.Value.arePlain_map {α : Type} {write : α → Json.Value} (h : ∀ a, (write a).IsPlain)
    (as : List α) : Json.Value.ArePlain (as.map write) := by
  induction as with
  | nil => trivial
  | cons a as ih => exact ⟨h a, ih⟩

theorem Json.Value.isPlain_ofOption (s : Option String) : (Json.Value.ofOption s).IsPlain := by
  cases s <;> trivial

theorem Snapshot.isPlain_toJson (s : Snapshot) : s.toJson.IsPlain :=
  ⟨Json.Value.isPlain_ofOption s.ns, Json.Value.isPlain_ofOption s.version, trivial, trivial⟩

theorem ConfigSnapshot.isPlain_toJson (s : ConfigSnapshot) : s.toJson.IsPlain :=
  ⟨Json.Value.isPlain_ofOption s.value, trivial⟩

theorem DiffEntry.isPlain_toJson {σ α : Type} {write : σ → Json.Value} {token : α → String}
    (h : ∀ s, (write s).IsPlain) (e : DiffEntry σ α) : (e.toJson write token).IsPlain :=
  have htoken : ∀ a : α, (Json.Value.string (token a)).IsPlain := fun _ => trivial
  have hneeded := Json.Value.arePlain_map htoken e.needed
  ⟨trivial, h e.actual, h e.expected, hneeded, trivial⟩

theorem StateDiff.isPlain_toJson (d : StateDiff) : d.toJson.IsPlain :=
  ⟨Json.Value.arePlain_map (DiffEntry.isPlain_toJson Snapshot.isPlain_toJson) d.dogus,
    Json.Value.arePlain_map (DiffEntry.isPlain_toJson Snapshot.isPlain_toJson) d.components,
    Json.Value.arePlain_map (DiffEntry.isPlain_toJson ConfigSnapshot.isPlain_toJson) d.config,
    trivial⟩

theorem Condition.isPlain_toJson (c : Condition) : c.toJson.IsPlain :=
  ⟨trivial, trivial, trivial, trivial, trivial, trivial⟩

theorem RecordedEvent.isPlain_toJson (e : RecordedEvent) : e.toJson.IsPlain :=
  ⟨trivial, trivial, trivial, trivial, trivial⟩

namespace Record

/-- A record is written without numbers, so that nothing of it is rounded. -/
theorem isPlain_toJson (r : Record) : r.toJson.IsPlain :=
  have hspec : (Json.Value.object [("config", r.config.toJson)]).IsPlain :=
    ⟨⟨trivial, trivial, trivial, trivial, trivial⟩, trivial⟩
  have hstatus : (Json.Value.object
      [("conditions", r.conditions.toJson), ("state_diff", r.diff.toJson)]).IsPlain :=
    ⟨Json.Value.arePlain_map Condition.isPlain_toJson r.conditions.entries,
      r.diff.isPlain_toJson, trivial⟩
  have hevents := Json.Value.arePlain_map RecordedEvent.isPlain_toJson r.events
  ⟨trivial, trivial, hspec, hstatus, hevents, trivial, trivial⟩

/-- What is read from a stored document. -/
theorem ofContent_document (r : Record) : ofContent r.document.toUTF8 = .ok r.remade := by
  rw [ofContent, document, Json.Value.readOctets?_pretty r.isPlain_toJson]
  simp only [Json.decodeRead, read_toJson]

theorem remade_eq_self_iff {r : Record} : r.remade = r ↔ r.diff.Distinct := by
  rw [← StateDiff.remade_eq_self_iff]
  obtain ⟨format, id, config, conditions, diff, events, updated⟩ := r
  simp [remade]

/-- **Round trip of stored records.** Whatever its texts and its time stamps are, and however many
conditions, diff entries and events it has, a record is read back from the octets of its document
as it was written, exactly if no diff entry lists an action twice. -/
theorem reads_back_iff (r : Record) :
    ofContent r.document.toUTF8 = .ok r ↔ r.diff.Distinct := by
  rw [ofContent_document, Except.ok.injEq]
  exact remade_eq_self_iff

/-! ## Reading -/

theorem distinct_of_readStatus {ν : Type} {F : Format ν} {v : ν} {status : Conditions × StateDiff}
    (h : readStatus F v = .ok status) : status.2.Distinct := by
  have hconditions := gives_trivial (optional "conditions" (Conditions.read F) .empty)
  have hdiff : (optional "state_diff" (StateDiff.read F) .empty).Gives StateDiff.Distinct :=
    gives_optional (fun _ _ => StateDiff.distinct_of_read) StateDiff.distinct_empty
  exact (Format.gives_record (hconditions.both hdiff) h).2

theorem distinct_of_read {ν : Type} {F : Format ν} {v : ν} {r : Record} (h : read F v = .ok r) :
    r.diff.Distinct := by
  have hstatus : (required "status" (readStatus F)).Gives fun s => s.2.Distinct :=
    gives_required fun _ _ => distinct_of_readStatus
  have hfields := (gives_trivial (required "format_version" F.string)).both
    ((gives_trivial (required "id" F.string)).both
      ((gives_trivial (required "spec" (readSpec F))).both
        (hstatus.both ((gives_trivial (optional "events" (F.list (RecordedEvent.read F)) [])).both
          (gives_trivial (required "last_updated" (Condition.readStamp F)))))))
  exact Format.gives_record (P := fun r : Record => r.diff.Distinct)
    (hfields.map fun _ hp => hp.2.2.2.1) h

/-- Whatever a document looks like, the record that is read from it is stored as it is. -/
theorem remade_of_ofContent {content : ByteArray} {r : Record} (h : ofContent content = .ok r) :
    r.remade = r := by
  obtain ⟨v, -, hread⟩ := Json.decodeRead_eq_ok_iff.mp h
  exact remade_eq_self_iff.mpr (distinct_of_read hread)

end Record
end BlueprintControl
