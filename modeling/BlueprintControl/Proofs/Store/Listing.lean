import BlueprintControl.Proofs.Store.FailedWrites
import BlueprintControl.Proofs.Store.Memory

/-!
# What is listed, and what is known

The directory is listed by the ending of the names in it, and loading looks at the identifier before
it looks at the directory. So everything that can be loaded is listed, but a name that somebody else
has put there is listed even if its identifier cannot be used. The store itself gives no such names.

## Main definitions

* `Place.Fits`: no name is longer than names can be.
* `Place.Tidy`: only identifiers that can be used are listed.
* `Store.Lists`, `Store.Knows`: a blueprint is listed, and something is stored of it.
* `Place.Grows`: which names can be new in a directory.
* `Store.Turns`: what a deed can do to the store.

## Main statements

* `lists_iff`, `knows_iff`: both told by the names in the directory.
* `listing_agrees_iff`: what is known is listed, and the converse holds in tidy directories only.
* `Session.grows_step`, `Session.tidy_run`: the store itself keeps its directory tidy.
* `Session.lists_iff_knows_run`: listing and loading agree unless somebody puts a name there that
  cannot be used.
-/
namespace BlueprintControl

/-! ## Names of documents -/

theorem toList_ne_nil_of_isValidId {id : String} (h : isValidId id = true) : id.toList ≠ [] := by
  intro hnil
  simp [isValidId, hnil] at h

namespace Place

theorem stem?_documentName {id : String} (h : id.toList ≠ []) :
    stem? (documentName id) = some id := by
  have hlength : (documentName id).toList.length - 5 = id.toList.length := by
    simp [documentName]
  have hpos : 0 < id.toList.length := List.length_pos_iff.mpr h
  simp only [stem?, hlength]
  simp [documentName, hpos]

theorem stem?_eq_some_iff {name id : String} :
    stem? name = some id ↔ id.toList ≠ [] ∧ name = documentName id := by
  constructor
  · intro h
    simp only [stem?] at h
    split at h
    case isTrue hending =>
      obtain ⟨hdrop, hpos⟩ := hending
      cases h
      constructor
      · rw [String.toList_ofList]
        refine List.ne_nil_of_length_pos ?_
        rw [List.length_take]
        omega
      · apply String.ext
        rw [documentName, String.toList_append, String.toList_ofList, ← hdrop,
          List.take_append_drop]
    case isFalse => cases h
  · rintro ⟨hid, rfl⟩
    exact stem?_documentName hid

variable {p q r : Place} {id name : String}

theorem mem_ids_iff : id ∈ p.ids ↔ id.toList ≠ [] ∧ documentName id ∈ p.items.keys := by
  rw [ids, List.mem_mergeSort, List.mem_filterMap]
  constructor
  · rintro ⟨name, hname, hstem⟩
    obtain ⟨hid, rfl⟩ := stem?_eq_some_iff.mp hstem
    exact ⟨hid, hname⟩
  · rintro ⟨hid, hname⟩
    exact ⟨_, hname, stem?_documentName hid⟩

/-- No name is longer than names can be. -/
def Fits (p : Place) : Prop := ∀ name ∈ p.items.keys, name.utf8ByteSize ≤ nameLimit

/-- Only identifiers that can be used are listed. -/
def Tidy (p : Place) : Prop := ∀ id ∈ p.ids, isValidId id = true

theorem Fits.exists?_look_iff (h : p.Fits) :
    (p.look name).exists? = true ↔ name ∈ p.items.keys := by
  cases p with
  | directory items =>
    by_cases hlong : nameLimit < name.utf8ByteSize
    · have hnot : name ∉ items.keys := fun hname => absurd (h name hname) (Nat.not_le.mpr hlong)
      simp [look, hlong, Look.exists?, Place.items, hnot]
    · rw [look, if_neg hlong, Place.items, Keyed.mem_keys_iff]
      cases hitem : items.find? name with
      | none => simp [Look.ofItem?, Look.exists?]
      | some item => cases item <;> simp [Look.ofItem?, Look.exists?]
  | _ => simp [look, Look.exists?, Place.items, Keyed.keys, Keyed.empty]

end Place

namespace Store

variable {s : Store} {id : String} {f : Failure}

/-! ## Listing and loading -/

/-- The blueprint is listed. -/
def Lists (s : Store) (id : String) : Prop := ∃ ids, s.ids = .ok ids ∧ id ∈ ids

/-- Something is stored of the blueprint: it can be loaded, or it cannot for another reason than
that nothing is there or its identifier cannot be used. -/
def Knows (s : Store) (id : String) : Prop :=
  ∀ f, s.load id = .error f → f.isNotFound = false ∧ f.kind ≠ .invalidBlueprint

theorem lists_iff : s.Lists id ↔ id ∈ s.place.ids := by
  unfold Lists Store.ids
  split
  case h_1 hp => simp [hp, Place.ids, Place.items, Keyed.keys, Keyed.empty]
  case h_2 => simp

theorem load_of_invalid (h : isValidId id = false) : s.load id = .error (invalidId id) := by
  simp only [load, read, h]
  rfl

/-- What stands under the name of a document is loaded, or it is of no use as a document. -/
theorem kind_of_load (hid : isValidId id = true)
    (h : (s.place.look (documentName id)).exists? = true) (hf : s.load id = .error f) :
    f.kind = .internal := by
  cases hread : s.read id with
  | ok found =>
    rw [load_of_read (r := found.1) (v := found.2) hread] at hf
    cases hf
  | error g =>
    have hload : s.load id = .error g := by simp only [load, hread]; rfl
    obtain rfl : g = f := by simpa [hload] using hf
    simp only [read, hid, Bool.not_true, Bool.false_eq_true, if_false] at hread
    split at hread
    case h_1 hlook =>
      rw [hlook] at h
      cases h
    case h_2 => cases hread; rfl
    case h_3 =>
      split at hread
      case h_1 => cases hread; rfl
      case h_2 =>
        split at hread
        case isTrue => cases hread
        case isFalse => cases hread; rfl

theorem knows_iff :
    s.Knows id ↔ isValidId id = true ∧ (s.place.look (documentName id)).exists? = true := by
  constructor
  · intro hk
    by_cases hid : isValidId id = true
    · refine ⟨hid, ?_⟩
      cases hlook : s.place.look (documentName id) with
      | absent why =>
        obtain ⟨hfound, -⟩ := hk _ (load_of_absent hid hlook)
        cases hfound
      | _ => rfl
    · obtain ⟨-, hkind⟩ := hk _ (load_of_invalid (by simpa using hid))
      exact absurd rfl hkind
  · rintro ⟨hid, hlook⟩ f hf
    have hkind := kind_of_load hid hlook hf
    exact ⟨by simp [Failure.isNotFound, hkind], by simp [hkind]⟩

/-- What is known is what is listed and can be used. -/
theorem knows_iff_lists (hfits : s.place.Fits) :
    s.Knows id ↔ s.Lists id ∧ isValidId id = true := by
  rw [knows_iff, lists_iff, Place.mem_ids_iff, hfits.exists?_look_iff]
  constructor
  · rintro ⟨hid, hname⟩
    exact ⟨⟨toList_ne_nil_of_isValidId hid, hname⟩, hid⟩
  · rintro ⟨⟨-, hname⟩, hid⟩
    exact ⟨hid, hname⟩

theorem lists_iff_knows (hfits : s.place.Fits) (htidy : s.place.Tidy) :
    s.Lists id ↔ s.Knows id := by
  rw [knows_iff_lists hfits]
  exact ⟨fun hlisted => ⟨hlisted, htidy id (lists_iff.mp hlisted)⟩, And.left⟩

/-- **Listing and loading.** In a directory in which no name is too long, a blueprint that is known
is listed. What is listed is known if its identifier can be used; otherwise loading it says that
the identifier cannot be used. So listing and loading agree on every identifier exactly if no
identifier is listed that cannot be used. -/
theorem listing_agrees_iff (s : Store) (hfits : s.place.Fits) :
    (∀ id, s.Knows id ↔ s.Lists id ∧ isValidId id = true) ∧
    (∀ id, s.Lists id → isValidId id = false → s.load id = .error (invalidId id)) ∧
    ((∀ id, s.Lists id ↔ s.Knows id) ↔ s.place.Tidy) := by
  refine ⟨fun id => knows_iff_lists hfits, fun id _ hid => load_of_invalid hid, ?_⟩
  constructor
  · intro hagree id hid
    have hknown : s.Knows id := (hagree id).mp (lists_iff.mpr hid)
    exact ((knows_iff_lists hfits).mp hknown).2
  · intro htidy id
    exact lists_iff_knows hfits htidy

/-- Beside a document there is one that somebody named otherwise. Both are listed, and only the
first of them is known. -/
theorem known_beside_stray :
    let items := (Keyed.empty.put "a.json" (.file .empty)).put "my blueprint.json" (.file .empty)
    let s : Store := ⟨"state", .directory items⟩
    s.place.Fits ∧ s.Knows "a" ∧ s.Lists "my blueprint" ∧
      s.load "my blueprint" = .error (invalidId "my blueprint") := by
  intro items s
  have hkeys : s.place.items.keys = ["a.json", "my blueprint.json"] := by decide
  have hfits : s.place.Fits := by
    intro name hname
    rw [hkeys] at hname
    have hname : name = "a.json" ∨ name = "my blueprint.json" := by simpa using hname
    rcases hname with rfl | rfl <;> decide
  have hlists : ∀ id, id.toList ≠ [] → documentName id ∈ s.place.items.keys → s.Lists id :=
    fun id hid hname => lists_iff.mpr (Place.mem_ids_iff.mpr ⟨hid, hname⟩)
  have hstray : s.Lists "my blueprint" := hlists _ (by decide) (by rw [hkeys]; decide)
  have hgood : s.Lists "a" := hlists _ (by decide) (by rw [hkeys]; decide)
  obtain ⟨hknows, hinvalid, -⟩ := listing_agrees_iff s hfits
  exact ⟨hfits, (hknows "a").mpr ⟨hgood, by decide⟩, hstray, hinvalid _ hstray (by decide)⟩

/-- A name with a blank is listed, and loading it says that it cannot be used. -/
theorem listed_but_unknown :
    let s : Store := ⟨"state", .directory (Keyed.empty.put "my blueprint.json" (.file .empty))⟩
    s.Lists "my blueprint" ∧ ¬ s.Knows "my blueprint" ∧ ¬ ∀ id, s.Lists id ↔ s.Knows id := by
  intro s
  have hlisted : s.Lists "my blueprint" :=
    lists_iff.mpr (Place.mem_ids_iff.mpr ⟨by decide, by decide⟩)
  have hunknown : ¬ s.Knows "my blueprint" := by
    intro hk
    exact absurd (knows_iff.mp hk).1 (by decide)
  exact ⟨hlisted, hunknown, fun hagree => hunknown ((hagree _).mp hlisted)⟩

end Store

/-! ## New names -/

/-- A name that the store itself gives to a file. -/
def IsStoreName (name : String) : Prop :=
  ∃ id, isValidId id = true ∧ (name = documentName id ∨ name = temporaryName id)

namespace Place

/-- Names that are new in the directory are not too long, and are as it is said. -/
def Grows (p q : Place) (new : String → Prop) : Prop :=
  ∀ name ∈ q.items.keys, name ∈ p.items.keys ∨ name.utf8ByteSize ≤ nameLimit ∧ new name

variable {p q r : Place} {new : String → Prop} {id name : String} {content : ByteArray}

namespace Grows

theorem refl (p : Place) (new : String → Prop) : p.Grows p new := fun _ h => .inl h

theorem trans (h : p.Grows q new) (h' : q.Grows r new) : p.Grows r new := by
  intro name hname
  rcases h' name hname with hname | hnew
  · exact h name hname
  · exact .inr hnew

theorem mono {new' : String → Prop} (h : p.Grows q new) (hnew : ∀ name, new name → new' name) :
    p.Grows q new' :=
  fun name hname => (h name hname).imp_right fun hn => ⟨hn.1, hnew name hn.2⟩

theorem fits (h : p.Grows q new) (hp : p.Fits) : q.Fits := by
  intro name hname
  rcases h name hname with hname | hnew
  · exact hp name hname
  · exact hnew.1

theorem tidy (h : p.Grows q new) (hp : p.Tidy)
    (hnew : ∀ id, new (documentName id) → id.toList ≠ [] → isValidId id = true) : q.Tidy := by
  intro id hid
  obtain ⟨hne, hname⟩ := mem_ids_iff.mp hid
  rcases h _ hname with hname | ⟨-, hn⟩
  · exact hp id (mem_ids_iff.mpr ⟨hne, hname⟩)
  · exact hnew id hn hne

end Grows

theorem grows_directory {item : Item} (hlong : name.utf8ByteSize ≤ nameLimit) (hnew : new name) :
    p.Grows (.directory (p.items.put name item)) new := by
  intro other hother
  rcases Keyed.mem_keys_put.mp hother with rfl | hother
  · exact .inr ⟨hlong, hnew⟩
  · exact .inl hother

theorem grows_erase {items : Keyed Item} (h : p.Grows (.directory items) new) (name : String) :
    p.Grows (.directory (items.erase name)) new :=
  fun other hother => h other (Keyed.mem_keys_of_mem_erase hother)

theorem grows_put (hlong : name.utf8ByteSize ≤ nameLimit) (hnew : new name) :
    p.Grows (p.put name content) new := by
  cases p with
  | directory items => exact grows_directory hlong hnew
  | _ => exact .refl _ _

theorem grows_rename {source : String} (hlong : name.utf8ByteSize ≤ nameLimit) (hnew : new name) :
    p.Grows (p.rename source name content) new := by
  cases p with
  | directory items => exact grows_erase (grows_directory hlong hnew) source
  | _ => exact .refl _ _

theorem grows_createFolder (s : Surroundings) (p : Place) (new : String → Prop) :
    p.Grows (p.createFolder s).2 new := by
  obtain heq | ⟨-, heq⟩ := prepared_createFolder s p
  · rw [heq]
    exact .refl p new
  · rw [heq]
    exact fun name hname => absurd hname List.not_mem_nil

/-- Under a name that is not in the way there is room. -/
theorem size_le_of_attempt {s : Surroundings} {step : WriteStep}
    (h : attempt s step (p.obstacle name) = .ok ()) : name.utf8ByteSize ≤ nameLimit := by
  obtain ⟨items, -, hlong⟩ := exists_directory_of_obstacle (attempt_eq_ok_iff.mp h).2
  exact Nat.not_lt.mp hlong

/-- No step brings another name than the two that it is given. -/
theorem grows_replace {s : Surroundings} {temporary : String} (htemporary : new temporary)
    (hname : new name) : p.Grows (p.replace s temporary name content).2 new := by
  simp only [replace]
  split
  case h_1 => exact .refl p new
  case h_2 hcreate =>
    have hput : ∀ part, p.Grows (p.put temporary part) new :=
      fun part => grows_put (size_le_of_attempt hcreate) htemporary
    split
    case h_1 => exact hput _
    case h_2 =>
      split
      case h_1 => exact hput _
      case h_2 =>
        split
        case h_1 => exact hput _
        case h_2 hrename => exact (hput _).trans (grows_rename (size_le_of_attempt hrename) hname)

theorem grows_writeDocument (s : Surroundings) (p : Place) (hid : isValidId id = true)
    (content : ByteArray) : p.Grows (p.writeDocument s id content).2 IsStoreName := by
  have hfolder := grows_createFolder s p IsStoreName
  unfold writeDocument
  split
  case h_1 g q hq =>
    rw [hq] at hfolder
    exact hfolder
  case h_2 q hq =>
    rw [hq] at hfolder
    exact hfolder.trans (grows_replace ⟨id, hid, .inr rfl⟩ ⟨id, hid, .inl rfl⟩)

theorem deposit?_eq_some {item : Item} (h : p.deposit? name item = some q) :
    name.utf8ByteSize ≤ nameLimit ∧ q = .directory (p.items.put name item) := by
  unfold deposit? at h
  split at h
  case h_1 => cases h
  case h_2 => cases h
  case h_3 =>
    split at h
    case h_1 => cases h
    case h_2 => cases h
    case h_3 =>
      split at h
      case isTrue => cases h
      case isFalse hlong =>
        cases h
        exact ⟨Nat.not_lt.mp hlong, rfl⟩

theorem remove?_eq_some (h : p.remove? name = some q) : q = .directory (p.items.erase name) := by
  unfold remove? at h
  split at h
  case h_1 => cases h; rfl
  case h_2 => cases h

end Place

namespace Store

variable {s : Store} {b : Blueprint} {w : Surroundings}

/-- The store itself has brought all new names. -/
def Grows (s t : Store) : Prop := s.place.Grows t.place IsStoreName

theorem grows_write (hid : isValidId b.id = true) (published : List RecordedEvent) :
    s.Grows (s.write w b published).2 := by
  rw [Grows, place_write]
  exact Place.grows_writeDocument w s.place hid _

theorem grows_create (w : Surroundings) (s : Store) (b : Blueprint) :
    s.Grows (s.create w b).2 :=
  place_create (P := fun p => s.place.Grows p IsStoreName) (.refl _ _) fun hid content =>
    Place.grows_writeDocument w s.place hid content

theorem grows_update (w : Surroundings) (s : Store) (b : Blueprint) :
    s.Grows (s.update w b).2 :=
  place_update (P := fun p => s.place.Grows p IsStoreName) (.refl _ _) fun hid content =>
    Place.grows_writeDocument w s.place hid content

/-- What a deed can do to the store. -/
inductive Turns (w : Surroundings) (s : Store) : Deed → Store → Prop where
  | kept {d : Deed} : Turns w s d s
  | created {d : Deed} (b : Blueprint) : Turns w s d (s.create w b).2
  | updated {d : Deed} (b : Blueprint) : Turns w s d (s.update w b).2
  | deposited {name : String} {item : Item} {p : Place}
      (hp : s.place.deposit? name item = some p) : Turns w s (.deposit name item) ⟨s.path, p⟩
  | removed {name : String} {p : Place} (hp : s.place.remove? name = some p) :
      Turns w s (.remove name) ⟨s.path, p⟩

theorem turns_adopt (w : Surroundings) (s : Store) (slot : String) (d : BlueprintDocument) :
    s.Turns w (.adopt slot d) (d.adopt w s).2 := by
  unfold BlueprintDocument.adopt
  split
  case h_1 =>
    split
    case isTrue => exact .kept
    case isFalse => exact .updated _
  case h_2 =>
    split
    case isTrue => exact .created _
    case isFalse => exact .kept

end Store

/-- Whoever puts something into the directory gives it no name that is listed and cannot be used. -/
def Deed.KeepsTidy : Deed → Prop
  | .deposit name _ => ∀ id, name = documentName id → id.toList ≠ [] → isValidId id = true
  | _ => True

/-- The names that may be new in the directory after a deed. -/
def Deed.MayName (d : Deed) (name : String) : Prop :=
  IsStoreName name ∨ ∃ item, d = .deposit name item

namespace Session

variable {s : Session} {deeds : List Deed}

theorem turns_step (s : Session) (d : Deed) :
    s.store.Turns (s.around s.next) d (s.step d).2.store := by
  simp only [step]
  cases d with
  | hold slot b => exact .kept
  | create slot =>
    simp only [act]
    split
    · rw [store_settle]
      exact .created _
    · exact .kept
  | load slot id =>
    simp only [act]
    rw [store_settle]
    exact .kept
  | update slot =>
    simp only [act]
    split
    · rw [store_settle]
      exact .updated _
    · exact .kept
  | perform slot o =>
    simp only [act]
    split <;> exact .kept
  | adopt slot d =>
    simp only [act]
    rw [store_settle]
    exact Store.turns_adopt _ _ slot d
  | deposit name item =>
    simp only [act]
    cases hp : s.store.place.deposit? name item with
    | none => exact .kept
    | some p => exact .deposited hp
  | remove name =>
    simp only [act]
    cases hp : s.store.place.remove? name with
    | none => exact .kept
    | some p => exact .removed hp

/-- A deed brings no names but those of the store, and the one under which it puts something. -/
theorem grows_step (s : Session) (d : Deed) :
    s.store.place.Grows (s.step d).2.store.place d.MayName := by
  have hturns := s.turns_step d
  generalize (s.step d).2.store = t at hturns
  have hown : ∀ t', s.store.Grows t' → s.store.place.Grows t'.place d.MayName :=
    fun t' ht => Place.Grows.mono ht fun name hname => .inl hname
  cases hturns with
  | kept => exact .refl _ _
  | created b => exact hown _ (Store.grows_create _ _ b)
  | updated b => exact hown _ (Store.grows_update _ _ b)
  | @deposited name item p hp =>
    obtain ⟨hlong, rfl⟩ := Place.deposit?_eq_some hp
    exact Place.grows_directory hlong (.inr ⟨item, rfl⟩)
  | removed hp =>
    obtain rfl := Place.remove?_eq_some hp
    exact fun other hother => .inl (Keyed.mem_keys_of_mem_erase hother)

/-- Whatever is done, no name gets too long. -/
theorem fits_run (h : s.store.place.Fits) (deeds : List Deed) :
    (s.run deeds).2.store.place.Fits := by
  induction deeds generalizing s with
  | nil => exact h
  | cons d rest ih => exact ih ((s.grows_step d).fits h)

theorem tidy_step (h : s.store.place.Tidy) {d : Deed} (hd : d.KeepsTidy) :
    (s.step d).2.store.place.Tidy := by
  refine (s.grows_step d).tidy h ?_
  rintro id (⟨other, hvalid, hname | hname⟩ | ⟨item, rfl⟩) hne
  · rwa [documentName_inj.mp hname]
  · exact absurd hname (documentName_ne_temporaryName id other)
  · exact hd id rfl hne

/-- The store itself keeps its directory tidy. -/
theorem tidy_run (h : s.store.place.Tidy) (hdeeds : ∀ d ∈ deeds, d.KeepsTidy) :
    (s.run deeds).2.store.place.Tidy := by
  induction deeds generalizing s with
  | nil => exact h
  | cons d rest ih =>
    obtain ⟨hd, hrest⟩ := List.forall_mem_cons.mp hdeeds
    exact ih (tidy_step h hd) hrest

/-- In a tidy directory listing and loading agree, and they go on to agree through every session in
which nobody puts a name there that cannot be used. -/
theorem lists_iff_knows_run (hfits : s.store.place.Fits) (htidy : s.store.place.Tidy)
    (hdeeds : ∀ d ∈ deeds, d.KeepsTidy) (id : String) :
    (s.run deeds).2.store.Lists id ↔ (s.run deeds).2.store.Knows id :=
  Store.lists_iff_knows (fits_run hfits deeds) (tidy_run htidy hdeeds)

end Session
end BlueprintControl
