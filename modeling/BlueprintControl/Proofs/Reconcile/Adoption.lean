import BlueprintControl.Proofs.Reconcile.Smooth
import BlueprintControl.Reconcile.Evaluation

/-!
# Bringing a document into a store

Where the directory of a store holds one blueprint at most, and nothing else, a document for this
blueprint can be brought into it if nothing fails. Afterwards the directory holds one record, with
the flags of the document, and is ready for a pass. What the record was like before plays no part.

## Main definitions

* `Place.HoldsOnly`: the directory holds one blueprint at most, and nothing else.

## Main statements

* `Store.write_of_holdsOnly`: a blueprint is written over the one that is there.
* `Stored.adopt_of_holdsOnly`: a document is brought into the store.
-/
namespace BlueprintControl

/-! ## Directories -/

/-- The directory is empty or not there yet, or it holds the document of one blueprint as it is
written by the store. -/
inductive Place.HoldsOnly (id : String) : Place → Prop where
  | absent : HoldsOnly id .absent
  | empty : HoldsOnly id (.directory .empty)
  | alone (r : Record) (hid : r.id = id) (hformat : r.format = formatVersion) :
      HoldsOnly id (.alone id r)

namespace Place.HoldsOnly

variable {p : Place} {s : Surroundings} {id : String}

theorem hasRoom (h : p.HoldsOnly id) : p.HasRoom := by
  cases h with
  | absent => exact .inl rfl
  | empty => exact .inr ⟨_, rfl⟩
  | alone r => exact .inr ⟨_, rfl⟩

theorem look_ne_folder (h : p.HoldsOnly id) (name : String) : p.look name ≠ .folder := by
  cases h with
  | absent => exact nofun
  | empty => exact look_empty_ne_folder name
  | alone r => exact look_alone_ne_folder id r name

/-- The directory that is there or is created, and what it holds after a file has been written
under a temporary name and renamed. -/
theorem exists_createFolder (h : p.HoldsOnly id) (hs : ∀ step, s.fault step = none)
    {temporary : String} (hne : temporary ≠ documentName id) (item item' : Item) :
    ∃ items, p.createFolder s = (.ok (), .directory items) ∧
      ((items.put temporary item).put (documentName id) item').erase temporary
        = Keyed.empty.put (documentName id) item' := by
  have hempty : ((Keyed.empty.put temporary item).put (documentName id) item').erase temporary
      = Keyed.empty.put (documentName id) item' := by
    simp [Keyed.empty, Keyed.put, Keyed.putEntry, Keyed.erase, Keyed.dropEntry, hne, hne.symm]
  cases h with
  | absent =>
    have hcreate : attempt s .createFolder none = .ok () := attempt_eq_ok_iff.mpr ⟨hs _, rfl⟩
    exact ⟨.empty, by simp [createFolder, hcreate], hempty⟩
  | empty => exact ⟨.empty, rfl, hempty⟩
  | alone r =>
    refine ⟨_, rfl, ?_⟩
    simp [Keyed.empty, Keyed.put, Keyed.putEntry, Keyed.erase, Keyed.dropEntry, hne]

/-- Writing the document leaves it alone in the directory. -/
theorem writeDocument (h : p.HoldsOnly id) (hs : ∀ step, s.fault step = none)
    (hfits : ¬ nameLimit < (documentName id).utf8ByteSize) (r : Record) :
    p.writeDocument s id r.document.toUTF8 = (.ok (), .alone id r) := by
  have hok := writeDocument_of_hasRoom ⟨hs, h.look_ne_folder _⟩ h.hasRoom hfits
    (h.look_ne_folder _) r.document.toUTF8
  obtain ⟨items, hfolder, hitems⟩ := h.exists_createFolder hs
    (documentName_ne_temporaryName id id).symm (.file r.document.toUTF8) (.file r.document.toUTF8)
  simp only [Place.writeDocument, hfolder] at hok ⊢
  rcases replace_cases s (.directory items) (temporaryName id) (documentName id)
    r.document.toUTF8 with ⟨hp, -, -⟩ | ⟨why, hf, -⟩
  · refine Prod.ext hok ?_
    rw [hp]
    exact congrArg Place.directory hitems
  · rw [hf] at hok
    cases hok

end Place.HoldsOnly

/-! ## Stores -/

namespace Store

variable {w : Surroundings} {b : Blueprint} {path id : String} {p : Place}
  {d : BlueprintDocument} {r : Record}

/-- A blueprint is written over the one that is there. -/
theorem write_of_holdsOnly (path : String) (h : p.HoldsOnly id) (hb : b.id = id)
    (hw : ∀ step, w.fault step = none) (hfits : ¬ nameLimit < (documentName id).utf8ByteSize)
    (published : List RecordedEvent) : ∃ b', write w ⟨path, p⟩ b published
      = (.ok b', ⟨path, .alone id (recordOf w b published)⟩) := by
  subst hb
  simp only [write, h.writeDocument hw hfits]
  exact ⟨_, rfl⟩

variable (hid : isValidId d.id = true) (hfits : ¬ nameLimit < (documentName d.id).utf8ByteSize)
  (hw : ∀ step, w.fault step = none)
include hid hfits hw

/-- A blueprint that is not stored is stored with the flags of its document. -/
theorem adopt_of_missing (h : p.HoldsOnly d.id)
    (hlook : p.look (documentName d.id) = .absent .missing) :
    ∃ b r, r.id = d.id ∧ r.config = d.config ∧ r.format = formatVersion ∧
      d.adopt w ⟨path, p⟩ = (.ok b, ⟨path, .alone d.id r⟩) := by
  obtain ⟨b, hwrite⟩ := write_of_holdsOnly path (b := d.toBlueprint) h rfl hw hfits []
  refine ⟨b, recordOf w d.toBlueprint [], rfl, rfl, rfl, ?_⟩
  have hvalid : isValidId d.toBlueprint.id = true := hid
  have hnew : (p.look (documentName d.toBlueprint.id)).exists? = false :=
    congrArg Look.exists? hlook
  have hcreate : create w ⟨path, p⟩ d.toBlueprint = write w ⟨path, p⟩ d.toBlueprint [] := by
    simp [create, hvalid, hnew]
  have hload : (Store.mk path p).load d.id = .error (.store (.notFound d.id)) :=
    load_of_absent hid hlook
  exact (BlueprintDocument.adopt_of_new hload w).trans (hcreate.trans hwrite)

/-- A blueprint that is stored gets the flags of its document. -/
theorem adopt_of_alone (hr : r.id = d.id) (hf : r.format = formatVersion) :
    ∃ b r', r'.id = d.id ∧ r'.config = d.config ∧ r'.format = formatVersion ∧
      d.adopt w ⟨path, .alone d.id r⟩ = (.ok b, ⟨path, .alone d.id r'⟩) := by
  have hdocument : (Store.mk path (.alone d.id r)).document? d.id = some r.document.toUTF8 :=
    document?_alone hid hfits
  have hread : (Store.mk path (.alone d.id r)).read d.id = _ := read_alone hid hfits hf
  by_cases hsame : r.config = d.config
  · exact ⟨_, r, hr, hsame, hf, BlueprintDocument.adopt_of_same hread hsame w⟩
  · let u := d.imposedOn r.remade (versionOf r.document.toUTF8)
    have hu : u.id = d.id := hr
    obtain ⟨b', hwrite⟩ := write_of_holdsOnly path (.alone r hr hf) hu hw hfits r.events
    have hcurrent : (Store.mk path (.alone d.id r)).current u = .ok r.events :=
      current_eq_ok_iff.mpr
        ⟨_, r.remade, (congrArg _ hu).trans hdocument, r.ofContent_document, hf, rfl, rfl⟩
    have hupdate : update w ⟨path, .alone d.id r⟩ u = write w ⟨path, .alone d.id r⟩ u r.events := by
      simp only [update, hcurrent]
    refine ⟨b', recordOf w u r.events, hu, rfl, rfl, ?_⟩
    exact (BlueprintDocument.adopt_of_other hread hsame w).trans (hupdate.trans hwrite)

end Store

/-- **Bringing a document into a store.** Whatever was stored of its blueprint before, the directory
then holds one record, with the flags of the document. -/
theorem Stored.adopt_of_holdsOnly {s : Stored} {d : BlueprintDocument}
    (h : s.store.place.HoldsOnly d.id) (hid : isValidId d.id = true)
    (hfits : ¬ nameLimit < (documentName d.id).utf8ByteSize)
    (hs : ∀ n step, (s.around n).fault step = none) :
    ∃ b r, r.id = d.id ∧ r.config = d.config ∧ r.format = formatVersion ∧
      (Stored.adopt d).run s
        = (.ok b, { s with store := ⟨s.store.path, .alone d.id r⟩, next := s.next + 1 }) := by
  obtain ⟨⟨path, p⟩, around, next⟩ := s
  have hadopted : ∃ b r, r.id = d.id ∧ r.config = d.config ∧ r.format = formatVersion ∧
      d.adopt (around next) ⟨path, p⟩ = (.ok b, ⟨path, .alone d.id r⟩) := by
    cases h with
    | absent => exact Store.adopt_of_missing hid hfits (hs next) .absent rfl
    | empty =>
      refine Store.adopt_of_missing hid hfits (hs next) .empty ?_
      simp [Place.look, hfits, Look.ofItem?]
    | alone r hr hf => exact Store.adopt_of_alone hid hfits (hs next) hr hf
  obtain ⟨b, r, hr, hconfig, hf, hadopt⟩ := hadopted
  refine ⟨b, r, hr, hconfig, hf, ?_⟩
  simp only [adopt, operate, hadopt]

end BlueprintControl
