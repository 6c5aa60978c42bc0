import BlueprintControl.Proofs.Keyed
import BlueprintControl.Proofs.Store.Commits

/-!
# Writes that fail

A write that fails may leave the directory and a temporary file behind that have not been there
before. Nobody who reads the store can tell: documents, identifiers and histories are as they were,
and so is the blueprint in memory. What is left does not get in the way of the next try either.

## Main definitions

* `Place.Agrees`: two directories look the same to whoever reads documents.
* `Place.Left`: what a write that fails can leave of a directory.
* `Store.Admits`: nothing is in the way of creating or updating a blueprint.
* `Store.announced`: the pending events of a blueprint, as they are published.

## Main statements

* `Place.left_writeDocument`: a write that fails leaves the directory and a temporary file at most.
* `Place.Left.agrees`: the directory looks the same then.
* `Store.Admits.of_left`: what is left does not get in the way.
* `Session.failed_write_kept`: a write that fails changes nothing, and can be tried again.
-/
namespace BlueprintControl

/-! ## Names that are no documents -/

namespace Place

theorem stem?_temporaryName (id : String) : stem? (temporaryName id) = none := by
  refine if_neg ?_
  rintro ⟨hdrop, -⟩
  have hsplit := List.take_append_drop ((temporaryName id).toList.length - 5)
    (temporaryName id).toList
  rw [hdrop] at hsplit
  have hlast := congrArg List.getLast? hsplit
  simp [temporaryName] at hlast

/-! ## Directories that look the same -/

/-- Two directories look the same to whoever reads documents. They may differ in why a document is
not there, and in files that are no documents. -/
structure Agrees (p q : Place) : Prop where
  content : ∀ id, q.content? (documentName id) = p.content? (documentName id)
  found : ∀ id, (q.look (documentName id)).exists? = (p.look (documentName id)).exists?
  ids : q.ids = p.ids
  occupied : q = .occupied ↔ p = .occupied

namespace Agrees

variable {p q r : Place}

theorem refl (p : Place) : p.Agrees p := ⟨fun _ => rfl, fun _ => rfl, rfl, Iff.rfl⟩

theorem trans (h : p.Agrees q) (h' : q.Agrees r) : p.Agrees r where
  content id := (h'.content id).trans (h.content id)
  found id := (h'.found id).trans (h.found id)
  ids := h'.ids.trans h.ids
  occupied := h'.occupied.trans h.occupied

end Agrees

variable {p q : Place} {id other : String}

/-- Nothing is different, or an empty directory has been created where there was none. -/
def Prepared (p q : Place) : Prop := q = p ∨ p = .absent ∧ q = .directory .empty

theorem prepared_createFolder (s : Surroundings) (p : Place) : p.Prepared (p.createFolder s).2 := by
  cases p with
  | absent =>
    simp only [createFolder]
    split
    · exact .inr ⟨rfl, rfl⟩
    · exact .inl rfl
  | _ => exact .inl rfl

theorem Prepared.agrees (h : p.Prepared q) : p.Agrees q := by
  obtain rfl | ⟨rfl, rfl⟩ := h
  · exact .refl q
  · refine ⟨fun id => ?_, fun id => ?_, rfl, by simp⟩
    · rw [content?_directory]
      simp [content?, look]
    · simp only [look]
      split <;> rfl

theorem agrees_put (p : Place) (id : String) (part : ByteArray) :
    p.Agrees (p.put (temporaryName id) part) := by
  cases p with
  | directory items =>
    have hne := fun other => documentName_ne_temporaryName other id
    refine ⟨fun other => content?_put_of_ne (hne other), fun other => ?_, ?_, by simp [put]⟩
    · simp [put, look, hne other]
    · simp only [put, ids, Place.items, Keyed.filterMap_keys_put (stem?_temporaryName id)]
  | _ => exact .refl _

theorem look_empty_ne_folder (name : String) : (directory .empty).look name ≠ .folder := by
  rw [look]
  split <;> simp [Look.ofItem?]

/-- No folder comes to stand in the place of a temporary file. -/
theorem Prepared.not_folder (h : p.Prepared q) (hp : p.look (temporaryName other) ≠ .folder) :
    q.look (temporaryName other) ≠ .folder := by
  obtain rfl | ⟨-, rfl⟩ := h
  · exact hp
  · exact look_empty_ne_folder _

theorem look_put_ne_folder {name other : String} {part : ByteArray}
    (hp : p.look other ≠ .folder) : (p.put name part).look other ≠ .folder := by
  cases p with
  | directory items =>
    simp only [put, look, Keyed.find?_put] at hp ⊢
    split
    · simp
    · split
      · simp [Look.ofItem?]
      · simp_all
  | _ => exact hp

/-- What a write that fails leaves behind: the directory and a temporary file at most. -/
def Left (p : Place) (id : String) (r : Place) : Prop :=
  ∃ q, p.Prepared q ∧ (r = q ∨ ∃ part, r = q.put (temporaryName id) part)

theorem left_writeDocument {s : Surroundings} {content : ByteArray} {f : StoreFailure}
    (h : (p.writeDocument s id content).1 = .error f) :
    p.Left id (p.writeDocument s id content).2 := by
  have hfolder := prepared_createFolder s p
  unfold writeDocument at h ⊢
  split at h
  case h_1 g q hq =>
    rw [hq] at hfolder
    exact ⟨q, hfolder, .inl rfl⟩
  case h_2 q hq =>
    rw [hq] at hfolder
    refine ⟨q, hfolder, ?_⟩
    rcases replace_cases s q (temporaryName id) (documentName id) content with
      ⟨-, hok, -⟩ | ⟨why, -, hleft⟩
    · rw [hok] at h
      cases h
    · exact hleft

/-- The directory is there or can be created. -/
def HasRoom (p : Place) : Prop := p = .absent ∨ ∃ items, p = .directory items

/-- Where a directory can be had that has room for the document, all steps are done if nothing is
in the way. -/
theorem writeDocument_of_hasRoom {s : Surroundings} (h : Unhindered s p id) (hroom : p.HasRoom)
    (hn : ¬ nameLimit < (documentName id).utf8ByteSize)
    (hd : p.look (documentName id) ≠ .folder) (content : ByteArray) :
    (p.writeDocument s id content).1 = .ok () := by
  obtain rfl | ⟨items, rfl⟩ := hroom
  · have hcreate : attempt s .createFolder none = .ok () :=
      attempt_eq_ok_iff.mpr ⟨h.faultless _, rfl⟩
    have hempty : absent.writeDocument s id content
        = (directory .empty).writeDocument s id content := by
      simp only [writeDocument, createFolder, hcreate]
    rw [hempty]
    exact writeDocument_directory ⟨h.faultless, look_empty_ne_folder _⟩ hn
      (look_empty_ne_folder _) content
  · exact writeDocument_directory h hn hd content

namespace Left

variable {r : Place}

theorem refl (p : Place) (id : String) : p.Left id p := ⟨p, .inl rfl, .inl rfl⟩

/-- Nobody who reads documents can tell that a write has failed. -/
theorem agrees (h : p.Left id r) : p.Agrees r := by
  obtain ⟨q, hq, rfl | ⟨part, rfl⟩⟩ := h
  · exact hq.agrees
  · exact hq.agrees.trans (agrees_put q id part)

theorem not_folder (h : p.Left id r) (hp : p.look (temporaryName other) ≠ .folder) :
    r.look (temporaryName other) ≠ .folder := by
  obtain ⟨q, hq, rfl | ⟨part, rfl⟩⟩ := h
  · exact hq.not_folder hp
  · exact look_put_ne_folder (hq.not_folder hp)

theorem hasRoom (h : p.Left id r) (hp : p.HasRoom) : r.HasRoom := by
  have hput : ∀ q : Place, q.HasRoom → ∀ name part, (q.put name part).HasRoom := by
    rintro q (rfl | ⟨items, rfl⟩) name part
    · exact .inl rfl
    · exact .inr ⟨_, rfl⟩
  obtain ⟨q, hq, hr⟩ := h
  have hroom : q.HasRoom := by
    obtain rfl | ⟨-, rfl⟩ := hq
    · exact hp
    · exact .inr ⟨_, rfl⟩
  obtain rfl | ⟨part, rfl⟩ := hr
  · exact hroom
  · exact hput q hroom _ part

end Left

/-- What is found under the name of a document is the same, but for the reason of absence. -/
theorem Agrees.look {p q : Place} (h : p.Agrees q) (id : String) :
    q.look (documentName id) = p.look (documentName id) ∨
      ∃ why why', p.look (documentName id) = .absent why ∧
        q.look (documentName id) = .absent why' := by
  have hcontent := h.content id
  have hfound := h.found id
  unfold content? at hcontent
  cases hp : p.look (documentName id) <;> cases hq : q.look (documentName id) <;>
    simp_all [Look.exists?]

end Place

namespace Store

variable {s t : Store} {w : Surroundings} {b : Blueprint}

/-! ## Reading after a write has failed -/

/-- What is left of a store after a write of a blueprint has failed. -/
structure Left (s : Store) (id : String) (t : Store) : Prop where
  path : t.path = s.path
  place : s.place.Left id t.place

theorem left_write {published : List RecordedEvent} {f : Failure}
    (h : (s.write w b published).1 = .error f) : s.Left b.id (s.write w b published).2 := by
  simp only [write] at h ⊢
  split at h
  case h_1 g p hp =>
    have hleft := Place.left_writeDocument (congrArg Prod.fst hp)
    rw [hp] at hleft
    exact ⟨rfl, hleft⟩
  case h_2 => cases h

theorem left_create {f : Failure} (h : (s.create w b).1 = .error f) :
    s.Left b.id (s.create w b).2 := by
  have hsame : s.Left b.id s := ⟨rfl, .refl _ _⟩
  unfold create at h ⊢
  split
  case isTrue => exact hsame
  case isFalse hid =>
    split
    case isTrue => exact hsame
    case isFalse hnew =>
      rw [if_neg hid, if_neg hnew] at h
      exact left_write h

theorem left_update {f : Failure} (h : (s.update w b).1 = .error f) :
    s.Left b.id (s.update w b).2 := by
  unfold update at h ⊢
  split at h
  case h_1 => exact ⟨rfl, .refl _ _⟩
  case h_2 => exact left_write h

namespace Left

variable {id : String}

theorem read (h : s.Left id t) (other : String) : t.read other = s.read other := by
  unfold Store.read
  rw [h.path]
  obtain hlook | ⟨why, why', hs, ht⟩ := h.place.agrees.look other
  · simp only [hlook]
  · simp only [hs, ht]

theorem load (h : s.Left id t) (other : String) : t.load other = s.load other := by
  simp only [Store.load, h.read]

theorem history (h : s.Left id t) (other : String) : t.history other = s.history other := by
  simp only [Store.history, h.read]

theorem ids (h : s.Left id t) : t.ids = s.ids := by
  have hids := h.place.agrees.ids
  have hoccupied := h.place.agrees.occupied
  unfold Store.ids
  split
  case h_1 ht => rw [hoccupied.mp ht]
  case h_2 ht =>
    split
    case h_1 hs => exact absurd (hoccupied.mpr hs) ht
    case h_2 => rw [hids]

theorem document? (h : s.Left id t) (other : String) : t.document? other = s.document? other := by
  simp only [Store.document?, h.place.agrees.content]

end Left

/-! ## Writing again -/

/-- The pending events of a blueprint, as they are published. -/
def announced (w : Surroundings) (b : Blueprint) : List RecordedEvent :=
  b.pending.zipIdx.map fun p => RecordedEvent.ofEvent p.1 w.now (w.ids p.2)

/-- The events that have been published for a blueprint so far, if it has a document. -/
def published (s : Store) (id : String) : List RecordedEvent := (s.history id).toOption.getD []

/-- Nothing is in the way of a deed that writes a blueprint. A blueprint that is created needs a
name that can be used and is not taken, and a directory; one that is updated has to be current. -/
inductive Admits (w : Surroundings) (s : Store) (b : Blueprint) : Deed → Prop where
  | create (slot : String) (hid : isValidId b.id = true)
      (hfits : ¬ nameLimit < (documentName b.id).utf8ByteSize)
      (hnew : (s.place.look (documentName b.id)).exists? = false) (hroom : s.place.HasRoom)
      (hclear : Unhindered w s.place b.id) : Admits w s b (.create slot)
  | update (slot : String) (hcurrent : s.IsCurrent b) (hclear : Unhindered w s.place b.id) :
      Admits w s b (.update slot)

/-- A blueprint has been written, and its pending events are published behind those that were
published before. -/
inductive Published (w : Surroundings) (s : Store) (b : Blueprint) :
    Except Failure Blueprint × Store → Prop where
  | intro (v : ResourceVersion) (s' : Store)
      (hhistory : s'.history b.id
        = .ok (Record.keepLatest (s.published b.id ++ announced w b))) :
      Published w s b (.ok { b.drained with version := some v }, s')

/-- What is left of a store does not get in the way of the next try. -/
theorem Admits.of_left {d : Deed} {id : String} (ha : s.Admits w b d) (h : s.Left id t) :
    t.Admits w b d := by
  have hclear : Unhindered w s.place b.id → Unhindered w t.place b.id := fun hu =>
    ⟨hu.faultless, h.place.not_folder hu.not_folder⟩
  cases ha with
  | create slot hid hfits hnew hroom hu =>
    refine .create slot hid hfits ?_ (h.place.hasRoom hroom) (hclear hu)
    rw [h.place.agrees.found, hnew]
  | update slot hcurrent hu =>
    refine .update slot ?_ (hclear hu)
    obtain ⟨found, hd, hcurrent⟩ := hcurrent
    exact ⟨found, (h.document? b.id).trans hd, hcurrent⟩

/-- Writing does all its steps, and the events are in the document. -/
theorem published_write {old : List RecordedEvent} (hid : isValidId b.id = true)
    (hsteps : ∀ content, (s.place.writeDocument w b.id content).1 = .ok ())
    (hold : s.published b.id = old) : Published w s b (s.write w b old) := by
  obtain ⟨s', hwrite, hdocs⟩ | ⟨f, s', hwrite, -⟩ := write_cases (s := s) w hid old
  · rw [hwrite]
    refine .intro _ s' ?_
    have hread := read_of_document ((hdocs b.id).trans (if_pos rfl)) rfl
    rw [history_of_read hread, hold]
    rfl
  · obtain ⟨why, hf⟩ := exists_backend_of_write (congrArg Prod.fst hwrite)
    have hok := hsteps (recordOf w b old).document.toUTF8
    simp only [write] at hwrite
    split at hwrite
    case h_1 hp =>
      rw [hp] at hok
      cases hok
    case h_2 => cases hwrite

theorem published_of_new {id : String} (h : s.document? id = none) : s.published id = [] := by
  have hread : ∀ r v, s.read id ≠ .ok (r, v) := by
    intro r v hread
    obtain ⟨content, hd, -⟩ := read_eq_ok_iff.mp hread
    rw [h] at hd
    cases hd
  unfold published history
  cases hr : s.read id with
  | error f => rfl
  | ok found => exact absurd hr (hread found.1 found.2)

theorem published_create {slot : String} (ha : s.Admits w b (.create slot)) :
    Published w s b (s.create w b) := by
  cases ha with
  | create slot hid hfits hnew hroom hclear =>
    have hfree : ¬ (s.place.look (documentName b.id)).exists? = true := by simp [hnew]
    have hfolder : s.place.look (documentName b.id) ≠ .folder := by
      intro hlook
      rw [hlook] at hnew
      cases hnew
    have hcreate : s.create w b = s.write w b [] := by simp [create, hid, hnew]
    rw [hcreate]
    exact published_write hid (Place.writeDocument_of_hasRoom hclear hroom hfits hfolder)
      (published_of_new (document?_eq_none_of_look hfree))

theorem published_update {slot : String} (ha : s.Admits w b (.update slot)) :
    Published w s b (s.update w b) := by
  cases ha with
  | update slot hcurrent hclear =>
    obtain ⟨old, hcurrent⟩ := exists_current_iff.mpr hcurrent
    obtain ⟨content, r, hd, hr, hformat, -, rfl⟩ := current_eq_ok_iff.mp hcurrent
    have hold : s.published b.id = r.events := by
      rw [published, history_of_read (read_eq_ok_iff.mpr ⟨content, hd, hr, hformat, rfl⟩)]
      rfl
    have hupdate : s.update w b = s.write w b r.events := by simp only [update, hcurrent]
    rw [hupdate]
    refine published_write (isValidId_of_document? hd) (fun content => ?_) hold
    exact writeDocument_of_unhindered hclear (content?_of_document? hd) content

end Store

namespace Session

/-- Nobody who reads the store can tell two sessions apart, and the slots hold the same. -/
structure Same (s t : Session) : Prop where
  slots : t.slots = s.slots
  /-- Documents have the same bytes. -/
  content : ∀ id, t.store.place.content? (documentName id)
    = s.store.place.content? (documentName id)
  /-- Where nothing was, there is nothing. -/
  found : ∀ id, (t.store.place.look (documentName id)).exists?
    = (s.store.place.look (documentName id)).exists?
  ids : t.store.ids = s.store.ids
  load : ∀ id, t.store.load id = s.store.load id
  history : ∀ id, t.store.history id = s.store.history id

variable {s : Session} {slot : String} {b : Blueprint} {d : Deed}

/-- A deed that writes a blueprint settles what comes of the store. -/
theorem step_of_settle {o : Except Failure Blueprint × Store}
    (hact : s.act (s.around s.next) d = s.settle slot o) :
    (∃ f, o.1 = .error f ∧ (s.step d).1 = .failed f ∧ (s.step d).2.slots = s.slots ∧
      (s.step d).2.store = o.2) ∨
    (∃ b', o.1 = .ok b' ∧ (s.step d).1 = .done ∧ (s.step d).2.slots = s.slots.put slot b' ∧
      (s.step d).2.store = o.2) := by
  obtain ⟨f | b', store⟩ := o
  · exact .inl ⟨f, rfl, by simp [step, hact, settle]⟩
  · exact .inr ⟨b', rfl, by simp [step, hact, settle, hold]⟩

/-- A deed that writes a blueprint fails and leaves little behind, and it does not fail if nothing
is in its way. -/
theorem exists_settle (hd : d = .create slot ∨ d = .update slot)
    (hb : s.slots.find? slot = some b) :
    ∃ o, s.act (s.around s.next) d = s.settle slot o ∧
      (∀ f, o.1 = .error f → s.store.Left b.id o.2) ∧
      (s.store.Admits (s.around s.next) b d → Store.Published (s.around s.next) s.store b o) := by
  obtain rfl | rfl := hd
  · exact ⟨s.store.create (s.around s.next) b, by simp only [act, hb],
      fun f hf => Store.left_create hf, fun ha => Store.published_create ha⟩
  · exact ⟨s.store.update (s.around s.next) b, by simp only [act, hb],
      fun f hf => Store.left_update hf, fun ha => Store.published_update ha⟩

theorem same_of_left {t : Session} {id : String} (hslots : t.slots = s.slots)
    (h : s.store.Left id t.store) : s.Same t where
  slots := hslots
  content := h.place.agrees.content
  found := h.place.agrees.found
  ids := h.ids
  load := h.load
  history := h.history

/-- **A write that fails changes nothing, and can be tried again.** Whatever the reason is, nobody
who reads the store can tell, the blueprint in memory is as it was, and what is left of the write
does not get in the way of the next try. Once nothing is in the way of it, however much has
happened in between, the next try of the same blueprint succeeds. Its pending events are then
published behind those that were published before, and none is pending any more. -/
theorem failed_write_kept (s : Session) (slot : String) (b : Blueprint) (d : Deed) (f : Failure)
    (hd : d = .create slot ∨ d = .update slot) (hb : s.slots.find? slot = some b)
    (hf : (s.step d).1 = .failed f) :
    s.Same (s.step d).2 ∧
    (∀ w, s.store.Admits w b d → (s.step d).2.store.Admits w b d) ∧
    ∀ later : List Deed,
      let t := ((s.step d).2.run later).2
      t.slots.find? slot = some b → t.store.Admits (t.around t.next) b d →
        (t.step d).1 = .done ∧
        (t.step d).2.store.history b.id = .ok (Record.keepLatest
          (t.store.published b.id ++ Store.announced (t.around t.next) b)) ∧
        ∃ v, (t.step d).2.slots.find? slot = some { b.drained with version := some v } := by
  have hleft : (s.step d).2.slots = s.slots ∧ s.store.Left b.id (s.step d).2.store := by
    obtain ⟨o, hact, hfailed, -⟩ := exists_settle hd hb
    obtain ⟨g, hg, -, hslots, hstore⟩ | ⟨b', -, hdone, -⟩ := step_of_settle hact
    · exact ⟨hslots, hstore ▸ hfailed g hg⟩
    · rw [hdone] at hf
      cases hf
  refine ⟨same_of_left hleft.1 hleft.2, fun w ha => ha.of_left hleft.2, fun later => ?_⟩
  intro t hbt ha
  obtain ⟨o, hact, -, hadmitted⟩ := exists_settle hd hbt
  cases hadmitted ha with
  | intro v store hhistory =>
    obtain ⟨g, herr, -⟩ | ⟨b', hok, hdone, hslots, hstore⟩ := step_of_settle hact
    · cases herr
    · cases hok
      exact ⟨hdone, hstore ▸ hhistory, v, by rw [hslots, Keyed.find?_put, if_pos rfl]⟩

/-- A blueprint that cannot be created at first, because its temporary file cannot be synced, is
created by the next try. -/
theorem created_after_failed_sync :
    let faulty : Surroundings := ⟨default, fun _ => default, fun step =>
      if step = .sync then some "disk full" else none⟩
    let around : Nat → Surroundings := fun n =>
      if n = 0 then faulty else .smooth default fun _ => default
    let b := ((Blueprint.fresh "a" .plain).perform default .complete).blueprint
    let s : Session := ⟨⟨"state", .directory .empty⟩, Keyed.empty.put "x" b, around, 0⟩
    (s.step (.create "x")).1 = .failed (.store (.backend "Failed to sync blueprint: disk full")) ∧
      (s.run [.create "x", .create "x"]).2.store.history "a" = .ok [⟨default, default,
        "BlueprintApplied", "blueprint was successfully applied"⟩] := by
  intro faulty around b s
  have hf : (s.step (.create "x")).1
      = .failed (.store (.backend "Failed to sync blueprint: disk full")) := by
    subst s b around faulty
    rfl
  have hb : s.slots.find? "x" = some b := by
    subst s
    rfl
  obtain ⟨hsame, hadmits, hagain⟩ :=
    failed_write_kept s "x" b (.create "x") _ (.inl rfl) hb hf
  have hfree : s.store.Admits (.smooth default fun _ => default) b (.create "x") := by
    refine .create "x" (by decide) (by decide) (by decide) (.inr ⟨_, rfl⟩) ⟨fun _ => rfl, ?_⟩
    exact Place.look_empty_ne_folder _
  have haround : (s.step (.create "x")).2.around (s.step (.create "x")).2.next
      = .smooth default fun _ => default := by
    subst s b around faulty
    rfl
  have hnone : (s.step (.create "x")).2.store.published "a" = [] := by
    rw [Store.published, hsame.history]
    exact Store.published_of_new (Store.document?_empty "state" "a")
  obtain ⟨-, hhistory, -⟩ := hagain [] (hsame.slots ▸ hb) (haround ▸ hadmits _ hfree)
  refine ⟨hf, hhistory.trans ?_⟩
  simp only [run]
  rw [haround]
  change Except.ok (Record.keepLatest ((s.step (.create "x")).2.store.published "a" ++ _)) = _
  rw [hnone]
  rfl

end Session
end BlueprintControl
