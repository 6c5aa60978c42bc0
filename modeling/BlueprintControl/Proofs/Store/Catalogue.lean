import BlueprintControl.Proofs.Files.Names
import BlueprintControl.Proofs.Store.Listing
import Mathlib.Data.List.Nodup

/-!
# Identifiers and their files

The document of a blueprint is named after its identifier, the temporary file has another extension,
and the identifier is what is left if the extension is taken away. An identifier may contain dots,
and may itself end like a document or like a temporary file, and still all of them can be told apart.
So a directory in which only the store writes lists what has been created, whatever has failed in
between.

## Main definitions

* `Session.created`: the identifiers of the blueprints that are created in a session.
* `Store.Catalogued`: the directory lists these identifiers and nothing else.

## Main statements

* `isName_documentName`: a document has a name in the directory.
* `octets_lt_octets`: the order of identifiers is that of their octets.
* `Catalogued.step`, `catalogued_run`: the directory lists what has been created.
* `documents_one_to_one`: identifiers and documents correspond one to one.
-/
namespace BlueprintControl

/-! ## Names of files -/

theorem slash_not_mem_of_isValidId {id : String} (h : isValidId id = true) :
    '/' ∉ id.toList := by
  intro hslash
  simp only [isValidId, Bool.and_eq_true, List.all_eq_true] at h
  exact absurd (h.2 '/' hslash) (by decide)

theorem isName_append {id ending : String} (h : isValidId id = true)
    (hlong : 3 ≤ ending.toList.length) (hslash : '/' ∉ ending.toList) :
    Path.IsName (id ++ ending) := by
  have hshort : ∀ name : String, name.toList.length < 3 → id ++ ending ≠ name := by
    rintro name hname rfl
    rw [String.toList_append, List.length_append] at hname
    omega
  refine ⟨hshort _ (by decide), hshort _ (by decide), hshort _ (by decide), ?_⟩
  rw [String.toList_append, List.mem_append, not_or]
  exact ⟨slash_not_mem_of_isValidId h, hslash⟩

theorem isName_documentName {id : String} (h : isValidId id = true) :
    Path.IsName (documentName id) := isName_append h (by decide) (by decide)

theorem isName_temporaryName {id : String} (h : isValidId id = true) :
    Path.IsName (temporaryName id) := isName_append h (by decide) (by decide)

theorem documentName_eq (id : String) : documentName id = id ++ "." ++ "json" := by
  rw [documentName, String.append_assoc]
  rfl

theorem temporaryName_eq (id : String) : temporaryName id = id ++ "." ++ "tmp" := by
  rw [temporaryName, String.append_assoc]
  rfl

/-- The identifier is what stands in front of the extension. -/
theorem stem?_eq_some_iff_split {name id : String} :
    Place.stem? name = some id ↔ Path.splitExtension? name = some (id, "json") := by
  rw [Place.stem?_eq_some_iff, Path.splitExtension?_eq_some_iff (by decide) (by decide),
    documentName_eq, ne_eq, String.toList_eq_nil_iff]

theorem splitExtension?_documentName {id : String} (h : isValidId id = true) :
    Path.splitExtension? (documentName id) = some (id, "json") :=
  stem?_eq_some_iff_split.mp (Place.stem?_documentName (toList_ne_nil_of_isValidId h))

/-- The temporary file has another extension. -/
theorem withExtension_documentName {id : String} (h : isValidId id = true) :
    Path.withExtension (documentName id) "tmp" = temporaryName id := by
  rw [Path.withExtension_of_split (splitExtension?_documentName h), temporaryName_eq]

/-! ## The order of octets -/

/-- The octets of a text. -/
def octets (text : String) : List UInt8 := text.toUTF8.data.toList

theorem val_le_of_isValidId {id : String} (h : isValidId id = true) {c : Char}
    (hc : c ∈ id.toList) : c.val ≤ 127 := by
  simp only [isValidId, Bool.and_eq_true, List.all_eq_true] at h
  have hchar := h.2 c hc
  simp only [Char.isAlphanum, Bool.or_eq_true, beq_iff_eq] at hchar
  rcases hchar with (((halpha | hdigit) | rfl) | rfl) | rfl
  · rcases Bool.or_eq_true_iff.mp halpha with hupper | hlower
    · have hbetween : 'A'.val ≤ c.val ∧ c.val ≤ 'Z'.val := of_decide_eq_true hupper
      exact UInt32.le_trans hbetween.2 (by decide)
    · have hle : c.val ≤ 'z'.val := of_decide_eq_true (Bool.and_eq_true_iff.mp hlower).2
      exact UInt32.le_trans hle (by decide)
  · have hle : c.val ≤ '9'.val := of_decide_eq_true (Bool.and_eq_true_iff.mp hdigit).2
    exact UInt32.le_trans hle (by decide)
  all_goals decide

/-- Each character of an identifier is one octet. -/
theorem octets_eq_map {id : String} (h : isValidId id = true) :
    octets id = id.toList.map fun c => c.val.toUInt8 := by
  have hone : ∀ c ∈ id.toList, String.utf8EncodeChar c = [c.val.toUInt8] := by
    intro c hc
    exact String.utf8EncodeChar_eq_singleton
      (Char.utf8Size_eq_one_iff.mpr (val_le_of_isValidId h hc))
  have hbytes : id.toUTF8 = id.toList.utf8Encode := String.utf8Encode_toList.symm
  rw [octets, hbytes, List.utf8Encode, List.toList_data_toByteArray, List.flatMap_congr hone,
    ← List.map_eq_flatMap]

theorem map_lt_map {f : Char → UInt8} {cs ds : List Char}
    (hlt : ∀ c ∈ cs, ∀ d ∈ ds, c < d → f c < f d) (h : cs < ds) : cs.map f < ds.map f := by
  induction cs generalizing ds with
  | nil =>
    cases ds with
    | nil => exact absurd h (List.lt_irrefl _)
    | cons d ds => exact List.nil_lt_cons _ _
  | cons c cs ih =>
    cases ds with
    | nil => exact absurd h (List.not_lt_nil _)
    | cons d ds =>
      rw [List.map_cons, List.map_cons, List.cons_lt_cons_iff]
      rcases List.cons_lt_cons_iff.mp h with hhead | ⟨rfl, htail⟩
      · exact .inl (hlt c (by simp) d (by simp) hhead)
      · refine .inr ⟨rfl, ih (fun a ha b hb => ?_) htail⟩
        exact hlt a (List.mem_cons_of_mem _ ha) b (List.mem_cons_of_mem _ hb)

/-- The order of identifiers is that of their octets. -/
theorem octets_lt_octets {id other : String} (h : isValidId id = true)
    (ho : isValidId other = true) (hlt : id < other) : octets id < octets other := by
  rw [octets_eq_map h, octets_eq_map ho]
  have hchars : id.toList < other.toList := hlt
  refine map_lt_map (fun c hc d hd hcd => ?_) hchars
  have hcv := UInt32.le_iff_toNat_le.mp (val_le_of_isValidId h hc)
  have hdv := UInt32.le_iff_toNat_le.mp (val_le_of_isValidId ho hd)
  have hlt := UInt32.lt_iff_toNat_lt.mp (Char.lt_def.mp hcd)
  rw [UInt8.lt_iff_toNat_lt, UInt32.toNat_toUInt8, UInt32.toNat_toUInt8]
  simp only [UInt32.reduceToNat] at hcv hdv
  omega

/-! ## Writing and listing -/

namespace Place

variable {p q : Place} {s : Surroundings} {id other name : String} {content : ByteArray}

theorem Prepared.items_eq (h : p.Prepared q) : q.items = p.items := by
  obtain rfl | ⟨rfl, rfl⟩ := h <;> rfl

theorem nodup_keys_put (h : p.items.keys.Nodup) : (p.put name content).items.keys.Nodup := by
  cases p with
  | directory items => exact Keyed.nodup_keys_put h
  | _ => exact h

theorem nodup_keys_rename {source : String} (h : p.items.keys.Nodup) :
    (p.rename source name content).items.keys.Nodup := by
  cases p with
  | directory items =>
    simp only [rename, Place.items, Keyed.keys_erase]
    exact (Keyed.nodup_keys_put h).filter _
  | _ => exact h

theorem nodup_keys_writeDocument (h : p.items.keys.Nodup) :
    (p.writeDocument s id content).2.items.keys.Nodup := by
  have hfolder := (prepared_createFolder s p).items_eq
  unfold writeDocument
  split
  case h_1 f q hq =>
    rw [hq] at hfolder
    rwa [hfolder]
  case h_2 q hq =>
    rw [hq] at hfolder
    have hq : q.items.keys.Nodup := by rwa [hfolder]
    rcases replace_cases s q (temporaryName id) (documentName id) content with
      ⟨heq, -, -⟩ | ⟨why, -, heq | ⟨part, heq⟩⟩
    · rw [heq]
      exact nodup_keys_rename (nodup_keys_put hq)
    · rwa [heq]
    · rw [heq]
      exact nodup_keys_put hq

/-- A document that is written is listed besides what has been listed. -/
theorem mem_ids_writeDocument (hid : id.toList ≠ [])
    (h : (p.writeDocument s id content).1 = .ok ()) (other : String) :
    other ∈ (p.writeDocument s id content).2.ids ↔ other = id ∨ other ∈ p.ids := by
  have hfolder := (prepared_createFolder s p).items_eq
  unfold writeDocument at h ⊢
  split at h
  case h_1 => cases h
  case h_2 q hq =>
    rw [hq] at hfolder
    rcases replace_cases s q (temporaryName id) (documentName id) content with
      ⟨heq, -, hroom⟩ | ⟨why, herror, -⟩
    · obtain ⟨items, rfl, -⟩ := exists_directory_of_obstacle hroom
      have hne := documentName_ne_temporaryName other id
      have hkeys : documentName other ∈ (((directory items).put (temporaryName id) content).rename
          (temporaryName id) (documentName id) content).items.keys
            ↔ other = id ∨ documentName other ∈ p.items.keys := by
        rw [← hfolder, ← @documentName_inj other id]
        simp only [put, rename, Place.items, Keyed.keys_erase, List.mem_filter, Keyed.mem_keys_put,
          decide_eq_true_eq]
        simp [hne, hne.symm]
      rw [heq, mem_ids_iff, hkeys, mem_ids_iff]
      constructor
      · rintro ⟨hother, rfl | hname⟩
        · exact .inl rfl
        · exact .inr ⟨hother, hname⟩
      · rintro (rfl | ⟨hother, hname⟩)
        · exact ⟨hid, .inl rfl⟩
        · exact ⟨hother, .inr hname⟩
    · rw [herror] at h
      cases h

/-- Where a document has been written there is a directory. -/
theorem hasRoom_writeDocument (h : (p.writeDocument s id content).1 = .ok ()) :
    (p.writeDocument s id content).2.HasRoom := by
  unfold writeDocument at h ⊢
  split at h
  case h_1 => cases h
  case h_2 q hq =>
    rcases replace_cases s q (temporaryName id) (documentName id) content with
      ⟨heq, -, hroom⟩ | ⟨why, herror, -⟩
    · obtain ⟨items, rfl, -⟩ := exists_directory_of_obstacle hroom
      exact .inr ⟨_, heq⟩
    · rw [herror] at h
      cases h

/-- Where there is room, there still is after writing a document. -/
theorem HasRoom.writeDocument (h : p.HasRoom) : (p.writeDocument s id content).2.HasRoom := by
  cases hwrite : (p.writeDocument s id content).1 with
  | ok => exact hasRoom_writeDocument hwrite
  | error f => exact (left_writeDocument hwrite).hasRoom h

/-- Every identifier is listed once. -/
theorem nodup_ids (h : p.items.keys.Nodup) : p.ids.Nodup := by
  refine (List.mergeSort_perm _ _).nodup_iff.mpr (h.filterMap ?_)
  intro name name' id hname hname'
  rw [(stem?_eq_some_iff.mp hname).2, (stem?_eq_some_iff.mp hname').2]

theorem pairwise_ids (h : p.items.keys.Nodup) : p.ids.Pairwise (· < ·) := by
  have hle : p.ids.Pairwise (· ≤ ·) := by
    have hsorted : p.ids.Pairwise fun a b => decide (a ≤ b) = true := by
      refine List.pairwise_mergeSort (fun a b c hab hbc => ?_) (fun a b => ?_) _
      · simp only [decide_eq_true_eq] at hab hbc ⊢
        exact String.le_trans hab hbc
      · simpa using String.le_total a b
    exact hsorted.imp fun hab => of_decide_eq_true hab
  refine (hle.and (nodup_ids h)).imp ?_
  rintro a b ⟨hab, hne⟩
  rw [← String.not_le]
  exact fun hba => hne (String.le_antisymm hab hba)

end Place

/-! ## What is created is listed -/

namespace Store

variable {s t : Store} {w : Surroundings} {b b' : Blueprint} {created : List String} {id : String}

/-- The directory lists these identifiers and nothing else. All of them can be used, and each has
been created once. -/
structure Catalogued (s : Store) (created : List String) : Prop where
  nodup_keys : s.place.items.keys.Nodup
  fits : s.place.Fits
  room : s.place.HasRoom
  mem_ids_iff : ∀ id, id ∈ s.place.ids ↔ id ∈ created
  valid : ∀ id ∈ created, isValidId id = true
  nodup : created.Nodup

theorem catalogued_empty (h : s.place = .absent ∨ s.place = .directory .empty) :
    s.Catalogued [] := by
  have hitems : s.place.items = .empty := by
    rcases h with h | h <;> rw [h] <;> rfl
  have hids : s.place.ids = [] := by
    rw [Place.ids, hitems]
    exact List.mergeSort_nil
  refine ⟨?_, ?_, ?_, by simp [hids], by simp, List.nodup_nil⟩
  · rw [hitems]
    exact List.nodup_nil
  · rw [Place.Fits, hitems]
    exact fun name hname => absurd hname List.not_mem_nil
  · exact h.imp_right fun hplace => ⟨_, hplace⟩

namespace Catalogued

/-- The identifiers are listed, each once, in the order of their octets. -/
theorem ids (h : s.Catalogued created) : ∃ ids, s.ids = .ok ids ∧ ids.Perm created ∧
    ids.Pairwise fun id other => octets id < octets other := by
  have hids : s.ids = .ok s.place.ids := by
    unfold Store.ids
    split
    case h_1 hplace =>
      rcases h.room with heq | ⟨items, heq⟩
      · exact nomatch hplace.symm.trans heq
      · exact nomatch hplace.symm.trans heq
    case h_2 => rfl
  have hperm : s.place.ids.Perm created :=
    (List.perm_ext_iff_of_nodup (Place.nodup_ids h.nodup_keys) h.nodup).mpr h.mem_ids_iff
  have hvalid : ∀ id ∈ s.place.ids, isValidId id = true :=
    fun id hid => h.valid id ((h.mem_ids_iff id).mp hid)
  refine ⟨_, hids, hperm, (Place.pairwise_ids h.nodup_keys).imp_of_mem ?_⟩
  intro id other hid hother hlt
  exact octets_lt_octets (hvalid id hid) (hvalid other hother) hlt

/-- A write that fails adds nothing. -/
theorem write_of_error (h : s.Catalogued created) {published : List RecordedEvent} {f : Failure}
    (hid : isValidId b.id = true) (hf : (s.write w b published).1 = .error f) :
    (s.write w b published).2.Catalogued created := by
  have hleft := left_write hf
  have hgrows : s.Grows (s.write w b published).2 := grows_write hid published
  refine ⟨?_, Place.Grows.fits hgrows h.fits, hleft.place.hasRoom h.room, fun other => ?_, h.valid,
    h.nodup⟩
  · rw [place_write]
    exact Place.nodup_keys_writeDocument h.nodup_keys
  · rw [hleft.place.agrees.ids, h.mem_ids_iff]

/-- A write that is done adds the identifier, unless it has been listed before. -/
theorem write_of_ok (h : s.Catalogued created) {published : List RecordedEvent}
    (hid : isValidId b.id = true) (hb : (s.write w b published).1 = .ok b') :
    (b.id ∈ created → (s.write w b published).2.Catalogued created) ∧
      (b.id ∉ created → (s.write w b published).2.Catalogued (created ++ [b.id])) := by
  have hdone := writeDocument_of_write hb
  have hmem := Place.mem_ids_writeDocument (toList_ne_nil_of_isValidId hid) hdone
  have hkeys : (s.write w b published).2.place.items.keys.Nodup :=
    place_write w s b published ▸ Place.nodup_keys_writeDocument h.nodup_keys
  have hroom := Place.hasRoom_writeDocument hdone
  rw [← place_write] at hmem hroom
  have hfits : (s.write w b published).2.place.Fits :=
    Place.Grows.fits (grows_write hid published) h.fits
  constructor
  · intro hold
    refine ⟨hkeys, hfits, hroom, fun id => ?_, h.valid, h.nodup⟩
    rw [hmem, h.mem_ids_iff, or_iff_right_iff_imp]
    rintro rfl
    exact hold
  · intro hnew
    refine ⟨hkeys, hfits, hroom, fun id => ?_, ?_, ?_⟩
    · rw [hmem, h.mem_ids_iff, List.mem_append, List.mem_singleton, or_comm]
    · intro id hmem
      rcases List.mem_append.mp hmem with hold | hlast
      · exact h.valid id hold
      · rwa [List.mem_singleton.mp hlast]
    · refine List.nodup_append.mpr ⟨h.nodup, by simp, ?_⟩
      rintro id hold other hlast rfl
      exact hnew (List.mem_singleton.mp hlast ▸ hold)

/-- What stands under the name of a document is listed. -/
theorem mem_iff_exists? (h : s.Catalogued created) (hid : isValidId id = true) :
    id ∈ created ↔ (s.place.look (documentName id)).exists? = true := by
  rw [← h.mem_ids_iff, Place.mem_ids_iff, h.fits.exists?_look_iff]
  exact and_iff_right (toList_ne_nil_of_isValidId hid)

theorem create_of_error (h : s.Catalogued created) {f : Failure}
    (hf : (s.create w b).1 = .error f) : (s.create w b).2.Catalogued created := by
  unfold create at hf ⊢
  split
  case isTrue => exact h
  case isFalse hid =>
    split
    case isTrue => exact h
    case isFalse hnew =>
      rw [if_neg hid, if_neg hnew] at hf
      exact h.write_of_error (by simpa using hid) hf

/-- A blueprint that is created has not been listed before, and is listed from then on. -/
theorem create_of_ok (h : s.Catalogued created) (hb : (s.create w b).1 = .ok b') :
    (s.create w b).2.Catalogued (created ++ [b.id]) := by
  unfold create at hb ⊢
  split at hb
  case isTrue => cases hb
  case isFalse hinvalid =>
    split at hb
    case isTrue => cases hb
    case isFalse hnew =>
      have hid : isValidId b.id = true := by simpa using hinvalid
      rw [if_neg hinvalid, if_neg hnew]
      exact (h.write_of_ok hid hb).2 (mt (h.mem_iff_exists? hid).mp hnew)

/-- Only what is listed can be updated. -/
theorem update (h : s.Catalogued created) (w : Surroundings) (b : Blueprint) :
    (s.update w b).2.Catalogued created := by
  unfold Store.update
  split
  case h_1 => exact h
  case h_2 published hcurrent =>
    obtain ⟨content, -, hd, -⟩ := current_eq_ok_iff.mp hcurrent
    have hid := isValidId_of_document? hd
    cases hwrite : (s.write w b published).1 with
    | error f => exact h.write_of_error hid hwrite
    | ok b' =>
      refine (h.write_of_ok hid hwrite).1 ((h.mem_iff_exists? hid).mpr ?_)
      rw [Place.content?_eq_some_iff.mp (content?_of_document? hd)]
      rfl

end Catalogued
end Store

namespace Session

variable {s : Session} {known : List String}

/-- The identifier of the blueprint that a deed creates, if it does. -/
def created? (s : Session) (d : Deed) : Option String :=
  match d, (s.step d).1 with
  | .create slot, .done => (s.slots.find? slot).map Blueprint.id
  | _, _ => none

/-- The identifiers of the blueprints that are created by deeds in order. -/
def created (s : Session) : List Deed → List String
  | [] => []
  | d :: rest => (s.created? d).toList ++ (s.step d).2.created rest

/-- Blueprints that are created are listed, and no other deed of one's own adds or removes any. -/
theorem catalogued_step (h : s.store.Catalogued known) {d : Deed} (hd : d.IsOwn) :
    (s.step d).2.store.Catalogued (known ++ (s.created? d).toList) := by
  cases d with
  | hold slot b => simpa [created?, step, act, hold] using h
  | create slot =>
    cases hb : s.slots.find? slot with
    | none => simpa [created?, step, act, hb] using h
    | some b =>
      rcases hcreate : s.store.create (s.around s.next) b with ⟨f | b', t⟩
      · have ht := h.create_of_error (congrArg Prod.fst hcreate)
        rw [hcreate] at ht
        simpa [created?, step, act, hb, hcreate, settle] using ht
      · have ht := h.create_of_ok (congrArg Prod.fst hcreate)
        rw [hcreate] at ht
        simpa [created?, step, act, hb, hcreate, settle, Session.hold] using ht
  | load slot id => simpa [created?, step, act, store_settle] using h
  | update slot =>
    cases hb : s.slots.find? slot with
    | none => simpa [created?, step, act, hb] using h
    | some b => simpa [created?, step, act, hb, store_settle] using h.update (s.around s.next) b
  | perform slot o =>
    cases hb : s.slots.find? slot with
    | none => simpa [created?, step, act, hb] using h
    | some b => simpa [created?, step, act, hb, Session.hold] using h
  | _ => exact hd.elim

theorem catalogued_run (h : s.store.Catalogued known) {deeds : List Deed}
    (hown : ∀ d ∈ deeds, d.IsOwn) :
    (s.run deeds).2.store.Catalogued (known ++ s.created deeds) := by
  induction deeds generalizing s known with
  | nil => simpa [created, run] using h
  | cons d rest ih =>
    obtain ⟨hd, hrest⟩ := List.forall_mem_cons.mp hown
    have hafter := ih (catalogued_step h hd) hrest
    rwa [List.append_assoc] at hafter

/-- **Identifiers and documents.** Whatever identifier can be used: its document lies directly in
the directory of the store, the identifier is what is left of its name without the extension, and
the temporary file has the same name with another extension. Different identifiers have different
documents, and no temporary file is a document. So after any deeds of one's own in a directory that
was empty, whether they succeed or fail, those blueprints are listed that have been created, each
once, in the order of octets. -/
theorem documents_one_to_one (s : Session)
    (hempty : s.store.place = .absent ∨ s.store.place = .directory .empty) (deeds : List Deed)
    (hown : ∀ d ∈ deeds, d.IsOwn) :
    (∀ id, isValidId id = true →
      Path.parent? (Path.join s.store.path (documentName id))
        = some (Path.trimmed s.store.path) ∧
      Path.splitExtension? (documentName id) = some (id, "json") ∧
      Path.withExtension (documentName id) "tmp" = temporaryName id ∧
      ∀ other, isValidId other = true →
        (Path.join s.store.path (documentName other) = Path.join s.store.path (documentName id) →
          other = id) ∧
        Path.join s.store.path (temporaryName other)
          ≠ Path.join s.store.path (documentName id)) ∧
    (∀ name id, Place.stem? name = some id ↔ Path.splitExtension? name = some (id, "json")) ∧
    ∃ ids, (s.run deeds).2.store.ids = .ok ids ∧ ids.Perm (s.created deeds) ∧
      ids.Pairwise fun id other => octets id < octets other := by
  refine ⟨?_, fun name id => stem?_eq_some_iff_split, ?_⟩
  · intro id hid
    have hname := isName_documentName hid
    refine ⟨Path.parent?_join hname _, splitExtension?_documentName hid,
      withExtension_documentName hid, fun other hother => ⟨?_, ?_⟩⟩
    · intro heq
      exact documentName_inj.mp ((Path.join_inj (isName_documentName hother) hname).mp heq)
    · intro heq
      exact documentName_ne_temporaryName id other
        ((Path.join_inj (isName_temporaryName hother) hname).mp heq).symm
  · exact (catalogued_run (Store.catalogued_empty hempty) hown).ids

/-- Three identifiers of which one ends like a document and one like a temporary file. Writing the
latter fails at first and leaves a temporary file, and a name that starts with a dot is refused. -/
theorem listed_of_similar :
    let held := (((Keyed.empty.put "x" (.fresh "a.tmp" .plain)).put "y" (.fresh "a.json" .plain)).put
      "z" (.fresh "a" .plain)).put "w" (.fresh ".a" .plain)
    let fault : WriteStep → Option String := fun step => if step = .rename then some "no" else none
    let s : Session := ⟨⟨"state/", .absent⟩, held,
      fun n => if n = 0 then ⟨default, fun _ => default, fault⟩
        else .smooth default fun _ => default, 0⟩
    let deeds : List Deed := [.create "x", .create "y", .create "w", .create "x", .create "y",
      .create "z", .update "z"]
    s.created deeds = ["a.json", "a.tmp", "a"] ∧
      (∃ ids, (s.run deeds).2.store.ids = .ok ids ∧ ids.Perm ["a.json", "a.tmp", "a"] ∧
        ids.Pairwise fun id other => octets id < octets other) ∧
      Path.splitExtension? (documentName "a.tmp") = some ("a.tmp", "json") ∧
      Path.join "state/" (temporaryName "a") ≠ Path.join "state/" (documentName "a.tmp") := by
  intro held fault s deeds
  have hown : ∀ d ∈ deeds, d.IsOwn := by simp [deeds, Deed.IsOwn]
  have hcreated : s.created deeds = ["a.json", "a.tmp", "a"] := by decide +kernel
  obtain ⟨hnames, -, hids⟩ := documents_one_to_one s (.inl rfl) deeds hown
  obtain ⟨-, hsplit, -, hothers⟩ := hnames "a.tmp" (by decide)
  rw [hcreated] at hids
  exact ⟨hcreated, hids, hsplit, (hothers "a" (by decide)).2⟩

end Session
end BlueprintControl
