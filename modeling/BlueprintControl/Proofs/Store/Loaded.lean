import BlueprintControl.Proofs.Domain.Operations
import BlueprintControl.Proofs.Schema.Results
import BlueprintControl.Proofs.Store.Record
import BlueprintControl.Store.Repository
import Mathlib.Data.List.Nodup

/-!
# Conditions that have been loaded

Conditions are read from a document one by one, as they are listed there. A document may list a type
more than once, and then the conditions that have been loaded are not a set. What is done to a
blueprint writes the first condition of a type; those behind it, the surplus of the document, stay
as they are and are written back.

## Main definitions

* `Record.listed`, `Conditions.listed`: the nodes that a document lists as conditions.
* `Conditions.Loaded`: the conditions of a stored document, or those of a text.

## Main statements

* `Blueprint.surplus_performAll`: no operation touches the surplus.
* `Record.map_read_listed`: conditions are read one by one.
* `Conditions.loaded_as_listed`: the conditions that have been loaded, and what becomes of them.
-/
namespace BlueprintControl

/-! ## Surplus -/

namespace Blueprint

variable (b : Blueprint)

theorem surplus_perform (now : Stamp) (o : Operation) (t : ConditionType) :
    (b.perform now o).blueprint.conditions.surplus t = b.conditions.surplus t := by
  cases change_perform b now o with
  | kept new ho hc hp hn => rw [hc]
  | wrote u s reason message new ho ht hs hc hp hn => rw [hc, Conditions.surplus_set]
  | completed message hc hp => rw [hc, Conditions.surplus_set]
  | drained hc hp => rw [hc]

/-- No operation touches the surplus. -/
theorem surplus_performAll (os : List (Operation × Stamp)) (t : ConditionType) :
    (b.performAll os).conditions.surplus t = b.conditions.surplus t := by
  induction os generalizing b with
  | nil => rfl
  | cons p rest ih => rw [performAll_cons, ih, surplus_perform]

end Blueprint

/-! ## Listed conditions -/

section Listed

variable {ν α : Type} {F : Format ν} {v : ν}

/-- The value of a field of a record. -/
def Format.member? (F : Format ν) (record : String) (known : List String) (name : String) (v : ν) :
    Option ν :=
  match F.fields record known v with
  | .ok fs => (fs.find? name).map Prod.snd
  | .error _ => none

/-- The nodes that are listed as conditions. -/
def Conditions.listed (F : Format ν) (v : ν) : List ν :=
  match F.items v with
  | .ok items => items
  | .error _ => []

/-- The nodes that a record lists as its conditions, if any. -/
def Record.listed (F : Format ν) (v : ν) : List ν :=
  let status? := F.member? "BlueprintRecord"
    ["format_version", "id", "spec", "status", "events", "last_updated"] "status" v
  match status?.bind (F.member? "RecordStatus" ["conditions", "state_diff"] "conditions") with
  | some node => Conditions.listed F node
  | none => []

/-- Conditions are read one by one. -/
theorem Conditions.map_read_listed {cs : Conditions} (h : Conditions.read F v = .ok cs) :
    (Conditions.listed F v).map (Condition.read F) = cs.entries.map .ok := by
  obtain ⟨entries, hlist, h⟩ := Except.exists_of_bind_eq_ok h
  cases h
  obtain ⟨items, hitems, hmap⟩ := Format.exists_items_of_list hlist
  simpa only [listed, hitems] using hmap

theorem Format.member?_eq (name : String) {record : String} {known : List String} {fs : Fields ν}
    (h : F.fields record known v = .ok fs) :
    F.member? record known name v = (fs.find? name).map Prod.snd := by
  rw [member?, h]

/-- A record is read from an object with a status. -/
theorem Record.exists_status_of_read {r : Record} (h : Record.read F v = .ok r) :
    ∃ status d, F.member? "BlueprintRecord"
        ["format_version", "id", "spec", "status", "events", "last_updated"] "status" v
          = some status ∧ readStatus F status = .ok (r.conditions, d) := by
  obtain ⟨fs, hfields, hread⟩ := Format.exists_fields_of_record h
  obtain ⟨⟨f, i, c, ⟨cs, d⟩, e, u⟩, hall, rfl⟩ := Found.map_eq_value_iff.mp hread
  obtain ⟨-, hall⟩ := Found.both_eq_value_iff.mp hall
  obtain ⟨-, hall⟩ := Found.both_eq_value_iff.mp hall
  obtain ⟨-, hall⟩ := Found.both_eq_value_iff.mp hall
  obtain ⟨hstatus, -⟩ := Found.both_eq_value_iff.mp hall
  obtain ⟨position, status, hfind, hstatus⟩ := RecordReader.required_eq_value hstatus
  refine ⟨status, d, ?_, hstatus⟩
  exact (Format.member?_eq "status" hfields).trans (by rw [hfind]; rfl)

theorem Record.map_read_listed {r : Record} (h : Record.read F v = .ok r) :
    (Record.listed F v).map (Condition.read F) = r.conditions.entries.map .ok := by
  obtain ⟨status, d, hmember, hstatus⟩ := exists_status_of_read h
  obtain ⟨fs, hfields, hread⟩ := Format.exists_fields_of_record hstatus
  obtain ⟨hconditions, -⟩ := Found.both_eq_value_iff.mp hread
  have hinner : F.member? "RecordStatus" ["conditions", "state_diff"] "conditions" status
      = (fs.find? "conditions").map Prod.snd := Format.member?_eq "conditions" hfields
  simp only [listed, hmember, Option.bind_some, hinner]
  obtain ⟨position, node, hfind, hnode⟩ | ⟨hfind, habsent⟩ :=
    RecordReader.optional_eq_value hconditions
  · simpa only [hfind, Option.map_some] using Conditions.map_read_listed hnode
  · have hempty : r.conditions = .empty := habsent
    rw [hfind, hempty]
    rfl

end Listed

/-! ## Loaded conditions -/

namespace Conditions

/-- The conditions that have been loaded, and the nodes that the document lists for them: they come
with a stored record, or alone. -/
inductive Loaded : List Json.Value → Conditions → Prop where
  | stored {content : ByteArray} {v : Json.Value} {r : Record}
      (hv : Json.Value.readOctets? content = some v) (hr : Record.ofContent content = .ok r) :
      Loaded (Record.listed (Json.format .text) v) r.conditions
  | alone {text : String} {v : Json.Value} {cs : Conditions}
      (hv : Json.Value.read? text = some v)
      (hr : Json.decodeText Conditions.read text = .ok cs) :
      Loaded (listed (Json.format .text) v) cs

variable {items : List Json.Value} {cs : Conditions}

/-- Conditions are read one by one, whatever is listed. -/
theorem Loaded.map_read (h : Loaded items cs) :
    items.map (Condition.read (Json.format .text)) = cs.entries.map .ok := by
  cases h with
  | stored hv hr =>
    obtain ⟨v, hfound, hread⟩ := Json.decodeRead_eq_ok_iff.mp hr
    obtain rfl : v = _ := Option.some.inj (hfound.symm.trans hv)
    exact Record.map_read_listed hread
  | alone hv hr =>
    obtain ⟨v, hfound, hread⟩ := Json.decodeRead_eq_ok_iff.mp hr
    obtain rfl : v = _ := Option.some.inj (hfound.symm.trans hv)
    exact map_read_listed hread

/-- The type of a condition, if the node can be read as one. -/
def listedType? (item : Json.Value) : Option ConditionType :=
  (Condition.read (Json.format .text) item).toOption.map Condition.type

theorem Loaded.map_listedType? (h : Loaded items cs) :
    items.map listedType? = (cs.entries.map Condition.type).map some := by
  calc items.map listedType?
    _ = (items.map (Condition.read (Json.format .text))).map
          (fun found => found.toOption.map Condition.type) := by rw [List.map_map]; rfl
    _ = (cs.entries.map Condition.type).map some := by
      rw [h.map_read, List.map_map, List.map_map]
      rfl

theorem Loaded.isSet_iff (h : Loaded items cs) : cs.IsSet ↔ (items.map listedType?).Nodup := by
  rw [h.map_listedType?, List.nodup_map_iff fun _ _ => Option.some.inj, IsSet]

/-- What a blueprint has been stored with is loaded again. -/
theorem loaded_document (r : Record) :
    Loaded (r.conditions.entries.map Condition.toJson) r.conditions :=
  .stored (r := r.remade) (Json.Value.readOctets?_pretty r.isPlain_toJson) r.ofContent_document

/-- A record is stored with the conditions of its blueprint as they are. -/
theorem exists_read_recordOf (w : Surroundings) (b : Blueprint) (published : List RecordedEvent) :
    ∃ r, Record.ofContent (Store.recordOf w b published).document.toUTF8 = .ok r ∧
      r.conditions = b.conditions :=
  ⟨_, Record.ofContent_document _, rfl⟩

/-- **Conditions are loaded as they are listed.** Whatever a document lists as conditions is loaded,
one by one and in order, so that what has been loaded is a set exactly if the document lists no type
twice. Whatever is done to the blueprint and whichever condition is then written, the conditions of
this type are the one that has been written and, behind it, the surplus that has been loaded; so
the conditions are a set exactly if those that have been loaded are one. What is then stored is
read back with just these conditions. -/
theorem loaded_as_listed (h : Loaded items cs) :
    items.map (Condition.read (Json.format .text)) = cs.entries.map .ok ∧
    (cs.IsSet ↔ (items.map listedType?).Nodup) ∧
    ∀ (b : Blueprint) (os : List (Operation × Stamp)) (t : ConditionType) (s : Status)
      (reason message : String) (now : Stamp),
      let u := { b with conditions := cs }.performAll os
      let after := u.conditions.set t s reason message now
      after.ofType t = written t s reason message now (u.conditions.find? t) :: cs.surplus t ∧
      (after.IsSet ↔ cs.IsSet) ∧
      ∀ w published, ∃ r, Record.ofContent (Store.recordOf w
        { u with conditions := after } published).document.toUTF8 = .ok r ∧
          r.conditions = after := by
  refine ⟨h.map_read, h.isSet_iff, ?_⟩
  intro b os t s reason message now u after
  have hkept : ∀ t, u.conditions.surplus t = cs.surplus t :=
    Blueprint.surplus_performAll { b with conditions := cs } os
  refine ⟨?_, ?_, fun w published => exists_read_recordOf w _ published⟩
  · rw [ofType_set_self, hkept]
  · rw [isSet_iff_surplus, isSet_iff_surplus]
    simp only [after, surplus_set, hkept]

/-- A condition that asks for dogus to be applied. -/
def needed : Condition := ⟨.dogusApplied, .fails, Reason.needToApply, "", default⟩

/-- A record that lists this condition twice. -/
def doubled : Record := ⟨formatVersion, "a", .plain, ⟨[needed, needed]⟩, .empty, [], default⟩

/-- What has been loaded from a document with a condition twice has the second one for good. -/
theorem ofType_doubled :
    let u := doubled.toBlueprint.performAll [(.complete, default)]
    Loaded [needed.toJson, needed.toJson] doubled.conditions ∧ ¬ doubled.conditions.IsSet ∧
      (u.conditions.set .dogusApplied .holds Reason.applied "dogus applied" default).ofType
        .dogusApplied
          = [⟨.dogusApplied, .holds, Reason.applied, "dogus applied", default⟩, needed] := by
  intro u
  have hloaded : Loaded [needed.toJson, needed.toJson] doubled.conditions := loaded_document doubled
  obtain ⟨-, hset, hwritten⟩ := loaded_as_listed hloaded
  refine ⟨hloaded, fun h => absurd (hset.mp h) (by decide), ?_⟩
  exact (hwritten doubled.toBlueprint [(.complete, default)] .dogusApplied .holds Reason.applied
    "dogus applied" default).1

/-- A document with a condition twice is loaded as it is. After this condition has been written,
there is still the other one of its type, and both of them are stored. -/
theorem surplus_stored :
    Record.ofContent doubled.document.toUTF8 = .ok doubled ∧ ¬ doubled.conditions.IsSet ∧
      let after :=
        doubled.conditions.set .dogusApplied .holds Reason.applied "dogus applied" default
      ∃ r, Record.ofContent (Store.recordOf (.smooth default fun _ => default)
          { doubled.toBlueprint with conditions := after } []).document.toUTF8 = .ok r ∧
        r.conditions.ofType .dogusApplied
          = [⟨.dogusApplied, .holds, Reason.applied, "dogus applied", default⟩, needed] := by
  refine ⟨?_, ?_, ?_⟩
  · rw [Record.ofContent_document, Record.remade_eq_self_iff.mpr StateDiff.distinct_empty]
  · change ¬ (doubled.conditions.entries.map Condition.type).Nodup
    decide
  · intro after
    obtain ⟨r, hr, hconditions⟩ := exists_read_recordOf (.smooth default fun _ => default)
      { doubled.toBlueprint with conditions := after } []
    refine ⟨r, hr, ?_⟩
    rw [hconditions]
    decide

end Conditions
end BlueprintControl
