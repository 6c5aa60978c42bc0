import BlueprintControl.Proofs.Schema.Spelling
import BlueprintControl.Proofs.Store.Record
import BlueprintControl.Store.Document

/-!
# Entries that are made and entries that are read

An entry of a diff is made from actions or read from a document, and both ways drop repeats alike:
an entry that is read is the one that would be made from what the document lists, in every format.
So no diff that is read from a document or a record lists an action twice, and no more is dropped
when it is written and read again.

## Main definitions

* `DiffEntry.WrittenAs`: how an entry is written, with all repeats.

## Main statements

* `DiffEntry.read_eq_ok_iff`: what is read is made from what is written.
* `BlueprintDocument.read_toJson`: documents that are written and read.
* `DiffEntry.made_as_read`: both ways for all kinds of entries, and what follows for documents and
  records.
-/
namespace BlueprintControl

variable {ν : Type} {F : Format ν} {v : ν}

/-! ## Entries -/

section Entries

variable {σ α : Type} [DecidableEq α] [Inhabited σ] {table : List (String × α)}
  {token : α → String}

/-- A node is written as this entry, with all repeats of its actions. A snapshot that is left out is
blank, and no actions are listed where these are left out. -/
def DiffEntry.WrittenAs (F : Format ν) (snapshot : ν → Except Fault σ) (names : List String)
    (token : α → String) (v : ν) (w : DiffEntry σ α) : Prop :=
  let known := ["name", "actual", "expected", "neededActions"]
  ∃ fs, F.fields "DiffEntry" known v = .ok fs ∧ fs.names known = .value () ∧ fs.surplus = none ∧
    fs.Has "name" (fun n => F.string n = .ok w.name) False ∧
    fs.Has "actual" (fun s => snapshot s = .ok w.actual) (w.actual = default) ∧
    fs.Has "expected" (fun s => snapshot s = .ok w.expected) (w.expected = default) ∧
    fs.Has "neededActions" (F.Lists names token w.needed) (w.needed = [])

/-- Actions are read by dropping the repeats of those that are listed. -/
theorem readActions_eq_ok_iff (h : ∀ n a, table.lookup n = some a ↔ n = token a) {as : List α} :
    readActions F table v = .ok as ↔
      ∃ listed, F.Lists (table.map Prod.fst) token listed v ∧ distinct listed = as := by
  simp only [← Format.list_oneOf_iff h]
  constructor
  · intro hread
    obtain ⟨listed, hlist, hread⟩ := Except.exists_of_bind_eq_ok hread
    cases hread
    exact ⟨listed, hlist, rfl⟩
  · rintro ⟨listed, hlist, rfl⟩
    simp [readActions, hlist, bind, Except.bind, pure, Except.pure]

/-- What is read of an entry is made from what is written. -/
theorem DiffEntry.read_eq_ok_iff (h : ∀ n a, table.lookup n = some a ↔ n = token a)
    {snapshot : ν → Except Fault σ} {e : DiffEntry σ α} :
    DiffEntry.read F snapshot default table v = .ok e ↔
      ∃ w, WrittenAs F snapshot (table.map Prod.fst) token v w ∧
        make w.name w.actual w.expected w.needed = e := by
  simp only [DiffEntry.read, Format.record_eq_ok_iff, RecordReader.map, RecordReader.both,
    Found.map_eq_value_iff, Found.both_eq_value_iff, RecordReader.required_eq_value_iff,
    RecordReader.optional_eq_value_iff, readActions_eq_ok_iff h]
  have hactions : ∀ {fs : Fields ν} {k : List α}, fs.Has "neededActions"
      (fun v => ∃ listed, F.Lists (table.map Prod.fst) token listed v ∧ distinct listed = k)
      (k = []) ↔ ∃ listed, fs.Has "neededActions" (F.Lists (table.map Prod.fst) token listed)
        (listed = []) ∧ distinct listed = k := Fields.has_made_iff (f := distinct) (b := [])
  simp only [hactions]
  constructor
  · rintro ⟨fs, hfields, hnames, hsurplus, ⟨n, a, x, k⟩, ⟨hn, ha, hx, listed, hlisted, rfl⟩, rfl⟩
    exact ⟨⟨n, a, x, listed⟩, ⟨fs, hfields, hnames, hsurplus, hn, ha, hx, hlisted⟩, rfl⟩
  · rintro ⟨w, ⟨fs, hfields, hnames, hsurplus, hn, ha, hx, hlisted⟩, rfl⟩
    exact ⟨fs, hfields, hnames, hsurplus, (w.name, w.actual, w.expected, distinct w.needed),
      ⟨hn, ha, hx, w.needed, hlisted, rfl⟩, rfl⟩

/-- One kind of entry is read as it is made. In every format a node is read exactly if it is written
as an entry, and then the entry is made from all that is written; every entry can be written; and
one without repeats is read as it is written. -/
structure DiffEntry.ReadAsMade (read : {ν : Type} → Format ν → ν → Except Fault (DiffEntry σ α))
    (Written : {ν : Type} → Format ν → ν → DiffEntry σ α → Prop)
    (toJson : DiffEntry σ α → Json.Value) : Prop where
  read_iff : ∀ {ν : Type} (F : Format ν) (v : ν) (e : DiffEntry σ α), read F v = .ok e ↔
    ∃ w, Written F v w ∧ make w.name w.actual w.expected w.needed = e
  read_toJson : ∀ (source : Json.Source) (w : DiffEntry σ α),
    read (Json.format source) (toJson w) = .ok (make w.name w.actual w.expected w.needed)
  reread : ∀ {ν : Type} (F : Format ν) (v : ν) (w : DiffEntry σ α), Written F v w →
    w.needed.Nodup → read F v = .ok w

theorem DiffEntry.readAsMade {snapshot : {ν : Type} → Format ν → ν → Except Fault σ}
    {write : σ → Json.Value} (h : ∀ n a, table.lookup n = some a ↔ n = token a)
    (hsnapshot : ∀ source s, snapshot (Json.format source) (write s) = .ok s) :
    ReadAsMade (fun F => DiffEntry.read F (snapshot F) default table)
      (fun F => WrittenAs F (snapshot F) (table.map Prod.fst) token)
      (DiffEntry.toJson write token) where
  read_iff _ _ _ := read_eq_ok_iff h
  read_toJson source w :=
    DiffEntry.read_toJson source (hsnapshot source) (fun a => (h _ a).mpr rfl) w
  reread _ _ w hwritten hnodup :=
    (read_eq_ok_iff h).mpr ⟨w, hwritten, remade_eq_self_iff.mpr hnodup⟩

end Entries

theorem Action.lookup_eq_some_iff (n : String) (a : Action) :
    table.lookup n = some a ↔ n = a.token :=
  Format.lookup_eq_some_iff Action.lookup_token

theorem ConfigAction.lookup_eq_some_iff (n : String) (a : ConfigAction) :
    table.lookup n = some a ↔ n = a.token :=
  Format.lookup_eq_some_iff ConfigAction.lookup_token

/-! ## Documents -/

/-- What is read from a text in YAML is read from a tree. -/
theorem Yaml.exists_tree_of_decodeText {β : Type} {read : Format Tree → Tree → Except Fault β}
    {text : String} {b : β} (h : decodeText read text = .ok b) :
    ∃ t, Tree.read? text = some t ∧ read format t = .ok b := by
  unfold decodeText at h
  split at h
  case h_1 => cases h
  case h_2 t htree =>
    cases hread : read format t with
    | ok b' =>
      simp only [hread] at h
      cases h
      exact ⟨t, htree, hread⟩
    | error f =>
      simp only [hread] at h
      cases h

namespace BlueprintDocument

theorem read_toJson (source : Json.Source) (d : BlueprintDocument) :
    read (Json.format source) d.toJson = .ok { d with diff := d.diff.remade } := by
  refine Json.record_object rfl
    (RecordReader.map_value (a := (d.id, d.config, d.diff.remade)) ?_ rfl)
  exact RecordReader.both_value (RecordReader.required_value rfl rfl)
    (RecordReader.both_value
      (RecordReader.optional_value rfl (BlueprintConfig.read_toJson source d.config))
      (RecordReader.optional_value rfl (StateDiff.read_toJson source d.diff)))

theorem isPlain_toJson (d : BlueprintDocument) : d.toJson.IsPlain :=
  ⟨trivial, ⟨trivial, trivial, trivial, trivial, trivial⟩, d.diff.isPlain_toJson, trivial⟩

/-- A document without repeats is read back as it was written. -/
theorem decodeText_pretty {d : BlueprintDocument} (h : d.diff.Distinct) :
    Json.decodeText read d.toJson.pretty = .ok d := by
  rw [Json.decodeText, Json.Value.read?_pretty d.isPlain_toJson]
  simp only [Json.decodeRead, read_toJson, StateDiff.remade_eq_self_iff.mpr h]

theorem distinct_of_read {d : BlueprintDocument} (h : read F v = .ok d) : d.diff.Distinct := by
  have hdiff : (RecordReader.optional "stateDiff" (StateDiff.read F) .empty).Gives
      StateDiff.Distinct :=
    RecordReader.gives_optional (fun _ _ => StateDiff.distinct_of_read) StateDiff.distinct_empty
  have hfields := (RecordReader.gives_trivial (RecordReader.required "id" F.string)).both
    ((RecordReader.gives_trivial
      (RecordReader.optional "config" (BlueprintConfig.read F) .plain)).both hdiff)
  exact Format.gives_record (P := fun d : BlueprintDocument => d.diff.Distinct)
    (hfields.map fun _ hp => hp.2.2) h

/-- No document that is read lists an action twice in an entry. -/
theorem distinct_of_parse {text : String} {d : BlueprintDocument} (h : parse text = .ok d) :
    d.diff.Distinct := by
  obtain ⟨d', hdecode, h⟩ := Except.exists_of_bind_eq_ok h
  obtain rfl : d' = d := by
    split at h
    · cases h
    · cases h
      rfl
  cases hdecoded : Yaml.decodeText read text with
  | error f =>
    rw [hdecoded] at hdecode
    cases hdecode
  | ok d' =>
    rw [hdecoded] at hdecode
    cases hdecode
    obtain ⟨t, -, hread⟩ := Yaml.exists_tree_of_decodeText hdecoded
    exact distinct_of_read hread

end BlueprintDocument

/-! ## Both ways -/

theorem Record.ofDocument_document (r : Record) : ofDocument r.document = .ok r.remade := by
  rw [ofDocument, document, Json.decodeText, Json.Value.read?_pretty r.isPlain_toJson]
  simp only [Json.decodeRead, read_toJson]

/-- **Entries are read as they are made.** An entry that is made needs each of the given actions
once, in order of first mention, and no other. Every kind of entry is read as it is made from what
is written, with all repeats. So no diff of a document or of a record that is read lists an action
twice, and what has been read is read back as it was when it is written again. -/
theorem DiffEntry.made_as_read :
    (∀ {σ α : Type} [DecidableEq α] (name : String) (actual expected : σ) (actions : List α),
      FirstMentions actions (make name actual expected actions).needed) ∧
    ReadAsMade readDogu (fun F => WrittenAs F (Snapshot.read F "DoguSnapshot")
      (Action.table.map Prod.fst) Action.token) unitToJson ∧
    ReadAsMade readComponent (fun F => WrittenAs F (Snapshot.read F "ComponentSnapshot")
      (Action.table.map Prod.fst) Action.token) unitToJson ∧
    ReadAsMade readConfigEntry (fun F => WrittenAs F (ConfigSnapshot.read F)
      (ConfigAction.table.map Prod.fst) ConfigAction.token) configEntryToJson ∧
    (∀ text d, BlueprintDocument.parse text = .ok d →
      d.diff.Distinct ∧ Json.decodeText BlueprintDocument.read d.toJson.pretty = .ok d) ∧
    (∀ text r, Record.ofDocument text = .ok r →
      r.diff.Distinct ∧ Record.ofDocument r.document = .ok r) ∧
    (∀ content r, Record.ofContent content = .ok r →
      r.diff.Distinct ∧ Record.ofContent r.document.toUTF8 = .ok r) := by
  refine ⟨fun _ _ _ actions => firstMentions_distinct actions, ?dogus, ?components, ?config,
    ?document, ?text, ?content⟩
  case dogus =>
    exact readAsMade Action.lookup_eq_some_iff fun source => Snapshot.read_toJson source _
  case components =>
    exact readAsMade Action.lookup_eq_some_iff fun source => Snapshot.read_toJson source _
  case config =>
    exact readAsMade ConfigAction.lookup_eq_some_iff ConfigSnapshot.read_toJson
  case document =>
    intro text d h
    have hdistinct := BlueprintDocument.distinct_of_parse h
    exact ⟨hdistinct, BlueprintDocument.decodeText_pretty hdistinct⟩
  case text =>
    intro text r h
    obtain ⟨v, -, hread⟩ := Json.decodeRead_eq_ok_iff.mp h
    have hdistinct := Record.distinct_of_read hread
    exact ⟨hdistinct, r.ofDocument_document.trans
      (congrArg Except.ok (Record.remade_eq_self_iff.mpr hdistinct))⟩
  case content =>
    intro content r h
    have hremade := Record.remade_of_ofContent h
    exact ⟨Record.remade_eq_self_iff.mp hremade,
      r.ofContent_document.trans (congrArg Except.ok hremade)⟩

/-- A document lists an action twice, and a record is made with what is read. -/
theorem DiffEntry.made_as_read_of_upgrades :
    let text := "id: a\nstateDiff:\n  doguDiffs:\n  - name: n\n    neededActions: "
      ++ "[upgrade, install, upgrade]"
    let d : BlueprintDocument :=
      ⟨"a", .plain, ⟨[⟨"n", default, default, [.upgrade, .install]⟩], [], []⟩⟩
    let r : Record := { Record.ofBlueprint d.toBlueprint default with diff := d.diff }
    BlueprintDocument.parse text = .ok d ∧ d.diff.Distinct ∧
      Json.decodeText BlueprintDocument.read d.toJson.pretty = .ok d ∧
      Record.ofContent r.document.toUTF8 = .ok r ∧ r.diff.Distinct := by
  intro text d r
  have hparse : BlueprintDocument.parse text = .ok d := by decide +kernel
  have hcontent : Record.ofContent r.document.toUTF8 = .ok r := r.ofContent_document
  obtain ⟨-, -, -, -, hdocuments, -, hrecords⟩ := made_as_read
  obtain ⟨hdistinct, hreread⟩ := hdocuments text d hparse
  exact ⟨hparse, hdistinct, hreread, hcontent, (hrecords _ r hcontent).1⟩

end BlueprintControl
