import BlueprintControl.Proofs.Reconcile.Smooth
import BlueprintControl.Proofs.Store.Catalogue
import BlueprintControl.Proofs.Store.History

/-!
# What an import changes

A document is brought into a store in one of three ways. If its blueprint is stored with the same
config, nothing is written; if it is stored with another config, the record is written again, with
this config; if it is not stored, a new record is written. In no case does the diff of the document
get into the store, and where there was a record, all but its config and its time is kept.

This takes a directory in which only the store has written. A document that somebody else puts there
may hold a longer history than the store keeps, or another identifier than its name says.

## Main definitions

* `Store.Tended`: a directory in which only the store has written.
* `Store.Adopts`: the three ways of an import.
* `BlueprintDocument.Imported`: what an import that succeeds leaves.

## Main statements

* `Session.tended_run`: sessions in an empty directory tend it.
* `Store.Tended.adopts`: there is no fourth way.
* `Session.adopt_touches_config`: an import touches the config and nothing else.
-/
namespace BlueprintControl

/-- Nobody else writes to the directory. -/
def Deed.IsInternal : Deed → Prop
  | .deposit _ _ | .remove _ => False
  | _ => True

/-! ## Directories of the store alone -/

namespace Store

variable {s : Store} {w : Surroundings} {b : Blueprint} {id : String}
  {o : Except Failure Blueprint × Store}

/-- Every document is a record under its own identifier, with a history that is not too long, and
nothing stands in the way of writing one. -/
structure Tended (s : Store) : Prop where
  documents : ∀ id content, s.document? id = some content → ∃ r, Record.ofContent content = .ok r ∧
    r.format = formatVersion ∧ r.id = id ∧ r.events.length ≤ historyLimit
  room : s.place.HasRoom
  not_folder : ∀ name, s.place.look name ≠ .folder

theorem tended_empty (h : s.place = .absent ∨ s.place = .directory .empty) : s.Tended := by
  refine ⟨fun id content hd => ?_, h.imp_right fun hplace => ⟨_, hplace⟩, fun name => ?_⟩
  · have hc := content?_of_document? hd
    rcases h with hplace | hplace <;> rw [hplace] at hc
    · cases hc
    · rw [Place.content?_directory, Keyed.find?_empty] at hc
      split at hc <;> cases hc
  · rcases h with hplace | hplace <;> rw [hplace]
    · exact nofun
    · exact Place.look_empty_ne_folder name

namespace Tended

/-- Whatever is written is a record under its own identifier. -/
theorem documents_of_wrote (h : s.Tended) (ho : Wrote w s b o) (id : String) (content : ByteArray)
    (hd : o.2.document? id = some content) : ∃ r, Record.ofContent content = .ok r ∧
      r.format = formatVersion ∧ r.id = id ∧ r.events.length ≤ historyLimit := by
  cases ho with
  | written published t ha hdocs =>
    rw [hdocs] at hd
    split at hd
    case isTrue hid =>
      cases hd
      exact ⟨_, Record.ofContent_document _, rfl, hid.symm, Record.length_keepLatest_le _⟩
    case isFalse => exact h.documents id content hd
  | refused f t hdocs => exact h.documents id content (hdocs id ▸ hd)

theorem create (h : s.Tended) (w : Surroundings) (b : Blueprint) : (s.create w b).2.Tended where
  documents := h.documents_of_wrote (wrote_create w s b)
  room := place_create h.room fun _ _ => h.room.writeDocument
  not_folder name := place_create (P := fun p => p.look name ≠ .folder) (h.not_folder name)
    fun _ _ => Place.look_writeDocument_ne_folder (h.not_folder name)

theorem update (h : s.Tended) (w : Surroundings) (b : Blueprint) : (s.update w b).2.Tended where
  documents := h.documents_of_wrote (wrote_update w s b)
  room := place_update h.room fun _ _ => h.room.writeDocument
  not_folder name := look_update_ne_folder (h.not_folder name)

/-- A blueprint is stored and can be read, or there is nothing under its name. -/
theorem read_cases (h : s.Tended) (hid : isValidId id = true) :
    (∃ r v, s.read id = .ok (r, v) ∧ r.id = id ∧ r.events.length ≤ historyLimit) ∨
      (s.place.look (documentName id)).exists? = false ∧
        s.load id = .error (.store (.notFound id)) := by
  cases hlook : s.place.look (documentName id) with
  | absent why => exact .inr ⟨rfl, load_of_absent hid hlook⟩
  | folder => exact absurd hlook (h.not_folder _)
  | file content =>
    have hd : s.document? id = some content :=
      document?_eq_some_iff.mpr ⟨hid, Place.content?_eq_some_iff.mpr hlook⟩
    obtain ⟨r, hr, hf, hown, hbounded⟩ := h.documents id content hd
    exact .inl ⟨r, _, read_eq_ok_iff.mpr ⟨content, hd, hr, hf, rfl⟩, hown, hbounded⟩

end Tended
end Store

/-! ## Three ways -/

/-- What an import that succeeds leaves. What is returned is stored, at this version and with the
config of the document. What was stored before is kept, but for its config and its time, and if it
had this config already it is not touched at all; otherwise the blueprint is new. Another import of
the same document gives the same and writes nothing. -/
structure BlueprintDocument.Imported (d : BlueprintDocument) (s t : Store) (b : Blueprint) :
    Prop where
  stored : ∃ r v, t.read d.id = .ok (r, v) ∧ r.config = d.config ∧
    b = { r.toBlueprint with version := some v }
  kept : ∀ content, s.document? d.id = some content → ∃ r v v' now, s.read d.id = .ok (r, v) ∧
    t.read d.id = .ok ({ r with config := d.config, updated := now }, v') ∧
    (r.config = d.config → t = s)
  fresh : s.document? d.id = none → ∃ v now,
    t.read d.id = .ok (⟨formatVersion, d.id, d.config, .empty, .empty, [], now⟩, v)
  again : ∀ w, d.adopt w t = (.ok b, t)

namespace Store

variable {d : BlueprintDocument} {s : Store} {w : Surroundings} {b : Blueprint}
  {o : Except Failure Blueprint × Store}

/-- How a document is imported. -/
inductive Adopts (w : Surroundings) (s : Store) (d : BlueprintDocument) :
    Except Failure Blueprint × Store → Prop where
  | kept (r : Record) (v : ResourceVersion) (hread : s.read d.id = .ok (r, v))
      (hc : r.config = d.config) :
      Adopts w s d (.ok { r.toBlueprint with version := some v }, s)
  | updated (r : Record) (v : ResourceVersion) (hread : s.read d.id = .ok (r, v))
      (hown : r.id = d.id) (hbounded : r.events.length ≤ historyLimit) (hc : r.config ≠ d.config) :
      Adopts w s d (s.update w (d.imposedOn r v))
  | created (hnew : (s.place.look (documentName d.id)).exists? = false) :
      Adopts w s d (s.create w d.toBlueprint)

theorem Tended.adopts (h : s.Tended) (hid : isValidId d.id = true) (w : Surroundings) :
    s.Adopts w d (d.adopt w s) := by
  rcases h.read_cases hid with ⟨r, v, hread, hown, hbounded⟩ | ⟨hnew, hload⟩
  · by_cases hc : r.config = d.config
    · rw [BlueprintDocument.adopt_of_same hread hc]
      exact .kept r v hread hc
    · rw [BlueprintDocument.adopt_of_other hread hc]
      exact .updated r v hread hown hbounded hc
  · rw [BlueprintDocument.adopt_of_new hload]
    exact .created hnew

namespace Adopts

/-- Only the document of this blueprint is written. -/
theorem document?_of_ne (h : s.Adopts w d o) {other : String} (hne : other ≠ d.id) :
    o.2.document? other = s.document? other := by
  cases h with
  | kept => rfl
  | updated r v hread hown hbounded hc =>
    exact (outcome_update w s _).document?_of_ne fun heq => hne (heq.trans hown)
  | created hnew => exact (outcome_create w s _).document?_of_ne hne

/-- An import that fails writes no document. -/
theorem document?_of_error (h : s.Adopts w d o) {f : Failure} (hf : o.1 = .error f)
    (other : String) : o.2.document? other = s.document? other := by
  cases h with
  | kept => rfl
  | updated => exact (outcome_update w s _).document?_of_error hf
  | created => exact (outcome_create w s _).document?_of_error hf

/-- The record is written again, with another config and another time. -/
theorem imported_of_update {r : Record} {v : ResourceVersion} (hread : s.read d.id = .ok (r, v))
    (hown : r.id = d.id) (hbounded : r.events.length ≤ historyLimit) (hc : r.config ≠ d.config)
    (hb : (s.update w (d.imposedOn r v)).1 = .ok b) :
    d.Imported s (s.update w (d.imposedOn r v)).2 b := by
  obtain ⟨published, v', haccepts, hwritten, rfl⟩ := (wrote_update w s _).exists_read hb
  obtain ⟨content, hd, hr, hf, -⟩ := read_eq_ok_iff.mp hread
  have hid : (d.imposedOn r v).id = d.id := hown
  obtain rfl := haccepts.eq_of_read (hid ▸ hread)
  -- A diff that has been read has no action twice, so that it is written and read back as it is.
  have hdiff : r.diff = r.diff.remade := (congrArg Record.diff (Record.remade_of_ofContent hr)).symm
  have hkeeps : Record.Keeps { r with config := d.config } (d.imposedOn r v) :=
    ⟨rfl, rfl, rfl, hdiff, hbounded⟩
  rw [hkeeps.remade_recordOf rfl hf w, hid] at hwritten
  refine ⟨⟨_, v', hwritten, rfl, rfl⟩, fun content _ => ?_,
    (fun hnone => nomatch hnone.symm.trans hd), BlueprintDocument.adopt_of_same hwritten rfl⟩
  exact ⟨r, v, v', w.now, hread, hwritten, fun hsame => absurd hsame hc⟩

/-- A new record is written. -/
theorem imported_of_create (hnew : (s.place.look (documentName d.id)).exists? = false)
    (hb : (s.create w d.toBlueprint).1 = .ok b) :
    d.Imported s (s.create w d.toBlueprint).2 b := by
  obtain ⟨published, v, haccepts, hwritten, rfl⟩ := (wrote_create w s _).exists_read hb
  have hnone : s.document? d.id = none := document?_eq_none_of_look (by simp [hnew])
  obtain rfl := haccepts.eq_nil hnone
  exact ⟨⟨_, v, hwritten, rfl, rfl⟩, (fun content hd => nomatch hnone.symm.trans hd),
    fun _ => ⟨v, w.now, hwritten⟩, BlueprintDocument.adopt_of_same hwritten rfl⟩

theorem imported (h : s.Adopts w d o) (hb : o.1 = .ok b) : d.Imported s o.2 b := by
  cases h with
  | kept r v hread hc =>
    cases hb
    obtain ⟨content, hd, -⟩ := read_eq_ok_iff.mp hread
    refine ⟨⟨r, v, hread, hc, rfl⟩, fun _ _ => ?_,
      (fun hnone => nomatch hnone.symm.trans hd), BlueprintDocument.adopt_of_same hread hc⟩
    exact ⟨r, v, v, r.updated, hread, hc ▸ hread, fun _ => rfl⟩
  | updated r v hread hown hbounded hc => exact imported_of_update hread hown hbounded hc hb
  | created hnew => exact imported_of_create hnew hb

/-- An import succeeds if no step of writing fails and the name is not too long. -/
theorem exists_ok (h : s.Adopts w d o) (hs : s.Tended) (hid : isValidId d.id = true)
    (hw : ∀ step, w.fault step = none) (hfits : ¬ nameLimit < (documentName d.id).utf8ByteSize) :
    ∃ b, o.1 = .ok b := by
  cases h with
  | kept r v hread hc => exact ⟨_, rfl⟩
  | updated r v hread hown hbounded hc =>
    obtain ⟨content, hd, hr, hf, rfl⟩ := read_eq_ok_iff.mp hread
    have hcurrent : s.IsCurrent (d.imposedOn r (versionOf content)) :=
      ⟨content, (congrArg s.document? hown).trans hd, ⟨r, hr, hf⟩, rfl⟩
    obtain ⟨b, t, hupdate⟩ := exists_update (w := w) hcurrent ⟨hw, hs.not_folder _⟩
    exact ⟨b, congrArg Prod.fst hupdate⟩
  | created hnew =>
    have hadmits : s.Admits w d.toBlueprint (.create "") :=
      .create "" hid hfits hnew hs.room ⟨hw, hs.not_folder _⟩
    have hpublished := published_create hadmits
    generalize s.create w d.toBlueprint = o at hpublished
    cases hpublished
    exact ⟨_, rfl⟩

end Adopts
end Store

/-! ## Sessions -/

namespace Session

variable {s : Session} {deeds : List Deed}

theorem tended_step (h : s.store.Tended) {d : Deed} (hd : d.IsInternal) :
    (s.step d).2.store.Tended := by
  have hturns := s.turns_step d
  generalize (s.step d).2.store = t at hturns
  cases hturns with
  | kept => exact h
  | created b => exact h.create _ b
  | updated b => exact h.update _ b
  | deposited hp => exact hd.elim
  | removed hp => exact hd.elim

/-- As long as nobody else writes to the directory, it is tended. -/
theorem tended_run (h : s.store.Tended) (hdeeds : ∀ d ∈ deeds, d.IsInternal) :
    (s.run deeds).2.store.Tended := by
  induction deeds generalizing s with
  | nil => exact h
  | cons d rest ih =>
    obtain ⟨hd, hrest⟩ := List.forall_mem_cons.mp hdeeds
    exact ih (tended_step h hd) hrest

/-- **What an import changes.** Whatever the store has written into a directory that was empty, be
it by creating, by updating or by earlier imports, and whether or not it has failed: an import that
succeeds leaves the config of the document in the record of its blueprint and returns what is stored
there. What was stored before keeps its conditions, its diff and its history, and its bytes if it
had this config already, so that a second import of the document writes nothing. No import touches
another document, and one that fails touches none. It does not fail if nothing is in the way. -/
theorem adopt_touches_config (s : Session)
    (hempty : s.store.place = .absent ∨ s.store.place = .directory .empty) (deeds : List Deed)
    (hinternal : ∀ d ∈ deeds, d.IsInternal) (d : BlueprintDocument) (hid : isValidId d.id = true)
    (w : Surroundings) :
    let t := (s.run deeds).2.store
    (∀ b u, d.adopt w t = (.ok b, u) → d.Imported t u b) ∧
    (∀ answer u, d.adopt w t = (answer, u) →
      ∀ other, other ≠ d.id → u.document? other = t.document? other) ∧
    (∀ f u, d.adopt w t = (.error f, u) → ∀ other, u.document? other = t.document? other) ∧
    ((∀ step, w.fault step = none) → ¬ nameLimit < (documentName d.id).utf8ByteSize →
      ∃ b u, d.adopt w t = (.ok b, u)) := by
  intro t
  have htended : t.Tended := tended_run (Store.tended_empty hempty) hinternal
  have hadopts := htended.adopts hid w
  generalize d.adopt w t = o at hadopts
  refine ⟨?_, ?_, ?_, ?_⟩
  · rintro b u rfl
    exact hadopts.imported rfl
  · rintro answer u rfl other hne
    exact hadopts.document?_of_ne hne
  · rintro f u rfl other
    exact hadopts.document?_of_error rfl other
  · intro hw hfits
    obtain ⟨b, hb⟩ := hadopts.exists_ok htended hid hw hfits
    exact ⟨b, o.2, Prod.ext hb rfl⟩

/-- A blueprint has been applied completely before a document with another config and a diff of its
own is imported. It stays completed, its history stays, and the diff is not taken over. -/
theorem adopt_over_completed :
    let deeds : List Deed := [.hold "x" (.fresh "a" .plain), .perform "x" .complete, .create "x"]
    let d : BlueprintDocument := ⟨"a", { BlueprintConfig.plain with dryRun := true },
      ⟨[⟨"nginx", ⟨none, none, false⟩, ⟨none, some "1.0", true⟩, []⟩], [], []⟩⟩
    let t := (smooth.run deeds).2.store
    ∃ b u es, d.adopt (.smooth default fun _ => default) t = (.ok b, u) ∧
      u.load "a" = .ok b ∧ b.config.dryRun = true ∧ b.diff = .empty ∧ b.isCompleted = true ∧
      u.history "a" = .ok es ∧
      es.map RecordedEvent.told = [("BlueprintApplied", "blueprint was successfully applied")] ∧
      u.document? "b" = t.document? "b" := by
  intro deeds d t
  let b₀ := ((Blueprint.fresh "a" .plain).perform default .complete).blueprint
  have hcommit : (smooth.run [.hold "x" (.fresh "a" .plain), .perform "x" .complete]).2.commit?
      (.create "x") = some ⟨"x", b₀⟩ := rfl
  have hcommits : smooth.commits deeds = [⟨"x", b₀⟩] := rfl
  have harchived : (smooth.run deeds).2.Archived (smooth.commits deeds) :=
    archived_run (Store.document?_empty "state") (by simp [deeds, Deed.IsOwn])
  rw [hcommits] at harchived
  obtain ⟨r, v, hread, -, hconditions, hdiff⟩ :=
    read_of_commit (d := .create "x") trivial hcommit
  obtain ⟨es, hhistory, htold⟩ := harchived.history (List.mem_singleton_self _)
  obtain ⟨himported, hothers, -, hdone⟩ := adopt_touches_config smooth (.inr rfl) deeds
    (by simp [deeds, Deed.IsInternal]) d (by decide) (.smooth default fun _ => default)
  obtain ⟨b, u, hadopt⟩ := hdone (fun _ => rfl) (by decide)
  obtain ⟨⟨r₁, v₁, hstored, -, rfl⟩, hkept, -, -⟩ := himported b u hadopt
  have hread : t.read "a" = .ok (r, v) := hread
  have hes : r.events = es := Except.ok.inj ((Store.history_of_read hread).symm.trans hhistory)
  obtain ⟨content, hd, -⟩ := Store.read_eq_ok_iff.mp hread
  obtain ⟨r₀, v₀, v', now, hread₀, hread', -⟩ := hkept content hd
  cases hread₀.symm.trans hread
  cases hstored.symm.trans hread'
  refine ⟨_, u, _, hadopt, Store.load_of_read hread', rfl, hdiff, ?_,
    Store.history_of_read hread', ?_, hothers _ u hadopt "b" (by decide)⟩
  · change r.conditions.isTrue .completed = true
    rw [hconditions]
    rfl
  · change r.events.map RecordedEvent.told = _
    rw [hes, htold]
    rfl

end Session
end BlueprintControl
