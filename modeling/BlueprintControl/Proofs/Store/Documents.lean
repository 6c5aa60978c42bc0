import BlueprintControl.Proofs.Store.Writing
import BlueprintControl.Store.Repository

/-!
# The documents of a store

A store is looked at through `Store.document?`, the bytes of the document of a blueprint. Loading
reads one document. Creating and updating write one document, or none if they fail.

## Main definitions

* `Store.document?`: the bytes of the document of a blueprint.
* `Record.Readable`: bytes that are a record in the format of today.
* `BlueprintDocument.imposedOn`: a stored blueprint, with the config of a document.

## Main statements

* `Store.read_eq_ok_iff`, `Store.current_eq_ok_iff`: when a document can be read, and when a
  blueprint may be written.
* `Store.write_cases`: writing replaces one document, or touches none.
* `Store.outcome_create`, `Store.outcome_update`: the documents after creating and updating.
-/
namespace BlueprintControl

/-- Bytes that are a record in the format of today. -/
def Record.Readable (content : ByteArray) : Prop :=
  ∃ r, Record.ofContent content = .ok r ∧ r.format = formatVersion

namespace Store

/-- The bytes of the document of a blueprint. An identifier that cannot be used has none. -/
def document? (s : Store) (id : String) : Option ByteArray :=
  if isValidId id then s.place.content? (documentName id) else none

variable {s : Store} {id : String} {b b' : Blueprint} {w : Surroundings}

theorem isValidId_of_document? {content : ByteArray} (h : s.document? id = some content) :
    isValidId id = true := by
  unfold document? at h
  split at h
  case isTrue hid => exact hid
  case isFalse => cases h

theorem content?_of_document? {content : ByteArray} (h : s.document? id = some content) :
    s.place.content? (documentName id) = some content := by
  rwa [document?, if_pos (isValidId_of_document? h)] at h

/-- An empty directory holds no documents. -/
theorem document?_empty (path id : String) :
    (Store.mk path (.directory .empty)).document? id = none := by
  simp [document?, Place.content?_directory]

/-! ## Reading -/

theorem read_eq_ok_iff {r : Record} {v : ResourceVersion} :
    s.read id = .ok (r, v) ↔ ∃ content, s.document? id = some content ∧
      Record.ofContent content = .ok r ∧ r.format = formatVersion ∧ versionOf content = v := by
  unfold read document? Place.content?
  by_cases hid : isValidId id = true
  · cases hlook : s.place.look (documentName id) with
    | absent why => simp [hid, hlook]
    | folder => simp [hid, hlook]
    | file content =>
      cases hr : Record.ofContent content with
      | error f => simp [hid, hlook, hr]
      | ok r' =>
        by_cases hformat : r'.format = formatVersion
        · simp only [hid, hlook, hr, hformat, Bool.not_true, Bool.false_eq_true, if_false, if_true,
            Except.ok.injEq, Prod.mk.injEq, Option.some.injEq, exists_eq_left']
          refine and_congr_right ?_
          rintro rfl
          simp [hformat]
        · simp only [hid, hlook, hr, hformat, Bool.not_true, Bool.false_eq_true, if_false, if_true,
            Except.ok.injEq, Option.some.injEq, exists_eq_left', reduceCtorEq, false_iff]
          rintro ⟨rfl, h, -⟩
          exact hformat h
  · simp [hid]

theorem load_of_absent {why : OsError} (hid : isValidId id = true)
    (h : s.place.look (documentName id) = .absent why) :
    s.load id = .error (.store (.notFound id)) := by
  simp only [load, read, hid, h]
  rfl

theorem load_of_read {r : Record} {v : ResourceVersion} (h : s.read id = .ok (r, v)) :
    s.load id = .ok { r.toBlueprint with version := some v } := by
  simp only [load, h]
  rfl

theorem history_of_read {r : Record} {v : ResourceVersion} (h : s.read id = .ok (r, v)) :
    s.history id = .ok r.events := by
  simp only [history, h]
  rfl

theorem load_eq_ok_iff : s.load id = .ok b ↔ ∃ content r, s.document? id = some content ∧
    Record.ofContent content = .ok r ∧ r.format = formatVersion ∧
    { r.toBlueprint with version := some (versionOf content) } = b := by
  cases hread : s.read id with
  | error f =>
    have hload : s.load id = .error f := by simp only [load, hread]; rfl
    rw [hload]
    refine ⟨fun h => (nomatch h), ?_⟩
    rintro ⟨content, r, hd, hr, hf, -⟩
    rw [read_eq_ok_iff.mpr ⟨content, hd, hr, hf, rfl⟩] at hread
    cases hread
  | ok p =>
    obtain ⟨r, v⟩ := p
    have hload := load_of_read hread
    obtain ⟨content, hd, hr, hf, rfl⟩ := read_eq_ok_iff.mp hread
    rw [hload, Except.ok.injEq]
    refine ⟨fun h => ⟨content, r, hd, hr, hf, h⟩, ?_⟩
    rintro ⟨content', r', hd', hr', -, h⟩
    cases hd.symm.trans hd'
    cases hr.symm.trans hr'
    exact h

/-- The document of a blueprint is readable, and the blueprint has its version. -/
def IsCurrent (s : Store) (b : Blueprint) : Prop :=
  ∃ found, s.document? b.id = some found ∧ Record.Readable found ∧
    b.version = some (versionOf found)

/-- Whether a blueprint is current depends on its identifier and its version. -/
theorem IsCurrent.congr (h : s.IsCurrent b) (hid : b'.id = b.id) (hv : b'.version = b.version) :
    s.IsCurrent b' := by
  obtain ⟨found, hfound, hreadable, hversion⟩ := h
  exact ⟨found, hid ▸ hfound, hreadable, hv ▸ hversion⟩

theorem current_eq_ok_iff {published : List RecordedEvent} :
    s.current b = .ok published ↔ ∃ content r, s.document? b.id = some content ∧
      Record.ofContent content = .ok r ∧ r.format = formatVersion ∧
      b.version = some (versionOf content) ∧ r.events = published := by
  unfold current Blueprint.version?
  cases hv : b.version with
  | none => simp [bind, Except.bind]
  | some expected =>
    cases hread : s.read b.id with
    | error f =>
      refine ⟨fun h => (nomatch h), ?_⟩
      rintro ⟨content, r, hd, hr, hf, -⟩
      rw [read_eq_ok_iff.mpr ⟨content, hd, hr, hf, rfl⟩] at hread
      cases hread
    | ok p =>
      obtain ⟨r, found⟩ := p
      obtain ⟨content, hd, hr, hf, rfl⟩ := read_eq_ok_iff.mp hread
      by_cases hsame : versionOf content = expected
      · subst hsame
        simp [bind, Except.bind, pure, Except.pure, hd, hr, hf]
      · have hne : ¬ expected = versionOf content := fun h => hsame h.symm
        simp [bind, Except.bind, throw, throwThe, MonadExceptOf.throw, hd, hsame, hne]

theorem exists_current_iff : (∃ published, s.current b = .ok published) ↔ s.IsCurrent b := by
  constructor
  · rintro ⟨published, h⟩
    obtain ⟨content, r, hd, hr, hf, hv, -⟩ := current_eq_ok_iff.mp h
    exact ⟨content, hd, ⟨r, hr, hf⟩, hv⟩
  · rintro ⟨content, hd, ⟨r, hr, hf⟩, hv⟩
    exact ⟨_, current_eq_ok_iff.mpr ⟨content, r, hd, hr, hf, hv, rfl⟩⟩

theorem read_ne_backend {why : String} : s.read id ≠ .error (.store (.backend why)) := by
  intro h
  simp only [read, invalidId] at h
  repeat' split at h
  all_goals cases h

/-- Comparing versions does not write, so it does not fail as writing does. -/
theorem current_ne_backend {why : String} : s.current b ≠ .error (.store (.backend why)) := by
  unfold current Blueprint.version?
  intro h
  cases hv : b.version with
  | none => simp [hv, bind, Except.bind] at h
  | some expected =>
    cases hread : s.read b.id with
    | error f =>
      simp only [hv, hread, bind, Except.bind, Except.error.injEq] at h
      exact read_ne_backend (h ▸ hread)
    | ok p =>
      simp only [hv, hread, bind, Except.bind] at h
      split at h <;> cases h

/-! ## Writing -/

/-- How an operation that writes a blueprint can end. Either the document of the blueprint is
replaced and the blueprint returned has its version, or no document is touched. -/
inductive Outcome (s : Store) (b : Blueprint) : Except Failure Blueprint × Store → Prop where
  | written (content : ByteArray) (s' : Store)
      (hd : ∀ id, s'.document? id = if id = b.id then some content else s.document? id) :
      Outcome s b (.ok { b.drained with version := some (versionOf content) }, s')
  | refused (f : Failure) (s' : Store) (hd : ∀ id, s'.document? id = s.document? id) :
      Outcome s b (.error f, s')

theorem outcome_refused (s : Store) (b : Blueprint) (f : Failure) : s.Outcome b (.error f, s) :=
  .refused f s fun _ => rfl

namespace Outcome

variable {o : Except Failure Blueprint × Store}

/-- The documents of other blueprints are left alone. -/
theorem document?_of_ne (h : s.Outcome b o) (hne : id ≠ b.id) :
    o.2.document? id = s.document? id := by
  cases h with
  | written content s' hd => rw [hd, if_neg hne]
  | refused f s' hd => exact hd id

/-- An operation that fails leaves all documents alone. -/
theorem document?_of_error {f : Failure} (h : s.Outcome b o) (hf : o.1 = .error f) :
    o.2.document? id = s.document? id := by
  cases h with
  | written content s' hd => cases hf
  | refused g s' hd => exact hd id

end Outcome

/-- What is left of the directory, whether the document has been written or not. -/
theorem place_write (w : Surroundings) (s : Store) (b : Blueprint)
    (published : List RecordedEvent) : (s.write w b published).2.place
      = (s.place.writeDocument w b.id (recordOf w b published).document.toUTF8).2 := by
  simp only [write]
  split
  case h_1 f p hp => rw [hp]
  case h_2 p hp => rw [hp]

/-- Writing succeeds if all its steps are done. -/
theorem writeDocument_of_write {published : List RecordedEvent}
    (h : (s.write w b published).1 = .ok b') :
    (s.place.writeDocument w b.id (recordOf w b published).document.toUTF8).1 = .ok () := by
  simp only [write] at h
  split at h
  case h_1 => cases h
  case h_2 p hp => rw [hp]

/-- Writing fails at one of its steps only. -/
theorem exists_backend_of_write {published : List RecordedEvent} {f : Failure}
    (h : (s.write w b published).1 = .error f) : ∃ why, f = .store (.backend why) := by
  simp only [write] at h
  split at h
  case h_1 g p hp =>
    cases h
    obtain ⟨why, rfl⟩ := Place.exists_backend_of_writeDocument (congrArg Prod.fst hp)
    exact ⟨why, rfl⟩
  case h_2 => cases h

/-- Writing replaces the document of the blueprint by its record, or touches no document. -/
theorem write_cases (w : Surroundings) (hid : isValidId b.id = true)
    (published : List RecordedEvent) :
    (∃ s', s.write w b published = (.ok { b.drained with
        version := some (versionOf (recordOf w b published).document.toUTF8) }, s') ∧
      ∀ id, s'.document? id = if id = b.id then
        some (recordOf w b published).document.toUTF8 else s.document? id) ∨
    (∃ f s', s.write w b published = (.error f, s') ∧ ∀ id, s'.document? id = s.document? id) := by
  simp only [write]
  split
  case h_1 f p hp =>
    refine .inr ⟨_, _, rfl, fun id => ?_⟩
    have hsame := Place.content?_writeDocument_of_error (congrArg Prod.fst hp) id
    rw [hp] at hsame
    simp [document?, hsame]
  case h_2 p hp =>
    refine .inl ⟨_, rfl, fun id => ?_⟩
    have hwritten := Place.content?_writeDocument (congrArg Prod.fst hp) id
    rw [hp] at hwritten
    simp only [document?, hwritten]
    by_cases h : id = b.id
    · simp [h, hid]
    · simp [h]

theorem outcome_write (w : Surroundings) (hid : isValidId b.id = true)
    (published : List RecordedEvent) : s.Outcome b (s.write w b published) := by
  obtain ⟨s', h, hd⟩ | ⟨f, s', h, hd⟩ := write_cases w hid published
  · rw [h]
    exact .written _ s' hd
  · rw [h]
    exact .refused f s' hd

/-- A new document is written where nothing has been. -/
theorem outcome_create (w : Surroundings) (s : Store) (b : Blueprint) :
    s.Outcome b (s.create w b) := by
  unfold create
  split
  · exact outcome_refused s b _
  · split
    · exact outcome_refused s b _
    · exact outcome_write w (by simp_all) []

/-- What creating makes of the directory is what writing makes of it, or nothing. -/
theorem place_create {P : Place → Prop} (h : P s.place) (hwrite : isValidId b.id = true →
    ∀ content, P (s.place.writeDocument w b.id content).2) : P (s.create w b).2.place := by
  unfold create
  split
  case isTrue => exact h
  case isFalse hid =>
    split
    case isTrue => exact h
    case isFalse =>
      rw [place_write]
      exact hwrite (by simpa using hid) _

theorem document?_eq_none_of_look (h : ¬ (s.place.look (documentName id)).exists? = true) :
    s.document? id = none := by
  unfold document? Place.content?
  cases hlook : s.place.look (documentName id) <;> simp_all [Look.exists?]

theorem outcome_update (w : Surroundings) (s : Store) (b : Blueprint) :
    s.Outcome b (s.update w b) := by
  unfold update
  split
  case h_1 f _ => exact outcome_refused s b f
  case h_2 published hc =>
    obtain ⟨content, -, hd, -⟩ := current_eq_ok_iff.mp hc
    exact outcome_write w (isValidId_of_document? hd) published

/-- What updating makes of the directory is what writing makes of it, or nothing. -/
theorem place_update {P : Place → Prop} (h : P s.place) (hwrite : isValidId b.id = true →
    ∀ content, P (s.place.writeDocument w b.id content).2) : P (s.update w b).2.place := by
  unfold update
  split
  case h_1 => exact h
  case h_2 published hc =>
    obtain ⟨content, -, hd, -⟩ := current_eq_ok_iff.mp hc
    rw [place_write]
    exact hwrite (isValidId_of_document? hd) _

/-- Only a blueprint that is current is updated. -/
theorem isCurrent_of_update (h : (s.update w b).1 = .ok b') : s.IsCurrent b := by
  unfold update at h
  split at h
  case h_1 => cases h
  case h_2 published hc => exact exists_current_iff.mp ⟨published, hc⟩

/-- A blueprint that is current is updated, unless a step of writing fails. -/
theorem exists_backend_of_update {f : Failure} (hc : s.IsCurrent b)
    (h : (s.update w b).1 = .error f) : ∃ why, f = .store (.backend why) := by
  obtain ⟨published, hc⟩ := exists_current_iff.mpr hc
  simp only [update, hc] at h
  exact exists_backend_of_write h

theorem update_ne_backend {why : String} (hu : Unhindered w s.place b.id) :
    (s.update w b).1 ≠ .error (.store (.backend why)) := by
  unfold update
  split
  case h_1 f hc =>
    intro h
    cases h
    exact current_ne_backend hc
  case h_2 published hc =>
    obtain ⟨content, -, hd, -⟩ := current_eq_ok_iff.mp hc
    have hok := writeDocument_of_unhindered hu (content?_of_document? hd)
      (recordOf w b published).document.toUTF8
    simp only [write]
    split
    case h_1 f p hp =>
      rw [hp] at hok
      cases hok
    case h_2 => simp

/-- A blueprint that is current is updated if nothing is in the way. -/
theorem exists_update (hc : s.IsCurrent b)
    (hu : Unhindered w s.place b.id) : ∃ b' s', s.update w b = (.ok b', s') := by
  rcases hupdate : s.update w b with ⟨answer, s'⟩
  cases answer with
  | ok b' => exact ⟨b', s', rfl⟩
  | error f =>
    obtain ⟨why, rfl⟩ := exists_backend_of_update hc (congrArg Prod.fst hupdate)
    exact absurd (congrArg Prod.fst hupdate) (update_ne_backend hu)

end Store

/-! ## Bringing a document into the store -/

namespace BlueprintDocument

variable {d : BlueprintDocument} {s : Store} {r : Record} {v : ResourceVersion}

/-- The stored blueprint, with the config of the document. -/
def imposedOn (d : BlueprintDocument) (r : Record) (v : ResourceVersion) : Blueprint :=
  { r.toBlueprint with config := d.config, version := some v }

theorem adopt_of_same (hread : s.read d.id = .ok (r, v)) (hc : r.config = d.config)
    (w : Surroundings) :
    d.adopt w s = (.ok { r.toBlueprint with version := some v }, s) := by
  simp only [adopt, Store.load_of_read hread]
  exact if_pos hc

theorem adopt_of_other (hread : s.read d.id = .ok (r, v)) (hc : r.config ≠ d.config)
    (w : Surroundings) : d.adopt w s = s.update w (d.imposedOn r v) := by
  simp only [adopt, Store.load_of_read hread]
  exact if_neg hc

theorem adopt_of_new (hload : s.load d.id = .error (.store (.notFound d.id))) (w : Surroundings) :
    d.adopt w s = s.create w d.toBlueprint := by
  simp only [adopt, hload]
  rfl

end BlueprintDocument
end BlueprintControl
