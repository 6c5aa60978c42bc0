import BlueprintControl.Store.Writing

/-!
# What writing a document does to the files of the directory

A directory is looked at through `Place.content?`, the content of the file under a name. Writing the
document of a blueprint sets the content of this document and of no other, or of none at all if a
step fails. Temporary files come and go; no document is one.

## Main definitions

* `Place.content?`: the content of the file under a name.
* `Unhindered`: nothing is in the way of the steps.

## Main statements

* `content?_writeDocument`: the documents after all steps have been done.
* `content?_writeDocument_of_error`: the documents after a step has failed.
* `writeDocument_of_unhindered`: without a hindrance all steps are done.
-/
namespace BlueprintControl

/-! ## Names -/

/-- No document is a temporary file. -/
theorem documentName_ne_temporaryName (id other : String) :
    documentName id ≠ temporaryName other := by
  intro h
  have hlast := congrArg (fun name => name.toList.getLast?) h
  simp [documentName, temporaryName] at hlast

theorem documentName_inj {id other : String} : documentName id = documentName other ↔ id = other :=
  String.append_left_inj _

/-- Where a document has room for its name, so has its temporary file. -/
theorem size_temporaryName_le (id : String) :
    (temporaryName id).utf8ByteSize ≤ (documentName id).utf8ByteSize := by
  have hj : ".json".utf8ByteSize = 5 := by decide
  have ht : ".tmp".utf8ByteSize = 4 := by decide
  rw [temporaryName, documentName, String.utf8ByteSize_append, String.utf8ByteSize_append, hj, ht]
  omega

namespace Place

/-- The content of the file under a name. -/
def content? (p : Place) (name : String) : Option ByteArray :=
  match p.look name with
  | .file content => some content
  | _ => none

variable {p : Place} {name other : String} {content : ByteArray}

theorem content?_eq_some_iff : p.content? name = some content ↔ p.look name = .file content := by
  unfold content?
  split <;> simp_all

theorem content?_directory (items : Keyed Item) (name : String) :
    (directory items).content? name =
      if nameLimit < name.utf8ByteSize then none
      else match items.find? name with
        | some (.file content) => some content
        | _ => none := by
  by_cases hlong : nameLimit < name.utf8ByteSize
  · simp [content?, look, hlong]
  · cases hitem : items.find? name with
    | none => simp [content?, look, hlong, hitem, Look.ofItem?]
    | some item => cases item <;> simp [content?, look, hlong, hitem, Look.ofItem?]

/-! ## The operations on the directory -/

theorem content?_put_of_ne (h : other ≠ name) :
    (p.put name content).content? other = p.content? other := by
  cases p with
  | directory items => simp [put, content?_directory, h]
  | _ => rfl

theorem content?_rename_of_ne {source target : String} (hs : other ≠ source)
    (ht : other ≠ target) : (p.rename source target content).content? other = p.content? other := by
  cases p with
  | directory items => simp [rename, content?_directory, hs, ht]
  | _ => rfl

theorem content?_rename_self {items : Keyed Item} {source target : String} (hs : target ≠ source)
    (hn : ¬ nameLimit < target.utf8ByteSize) :
    ((directory items).rename source target content).content? target = some content := by
  simp [rename, content?_directory, hs, hn]

theorem content?_createFolder (s : Surroundings) (p : Place) (name : String) :
    (p.createFolder s).2.content? name = p.content? name := by
  cases p with
  | absent =>
    simp only [createFolder]
    split
    · simp [content?_directory, Keyed.find?_empty]
      rfl
    · rfl
  | _ => rfl

/-- Where a file can be created there is a directory. -/
theorem exists_directory_of_obstacle (h : p.obstacle name = none) :
    ∃ items, p = .directory items ∧ ¬ nameLimit < name.utf8ByteSize := by
  cases p with
  | directory items =>
    refine ⟨items, rfl, ?_⟩
    intro hlong
    simp [obstacle, look, hlong] at h
  | absent => simp [obstacle, look, exists?] at h
  | occupied => simp [obstacle, look] at h
  | blocked why => cases why <;> simp [obstacle, look, exists?] at h

/-! ## The steps -/

theorem attempt_eq_ok_iff {s : Surroundings} {step : WriteStep} {natural : Option OsError} :
    attempt s step natural = .ok () ↔ s.fault step = none ∧ natural = none := by
  unfold attempt
  cases s.fault step <;> cases natural <;> simp

theorem exists_backend_of_attempt {s : Surroundings} {step : WriteStep}
    {natural : Option OsError} {f : StoreFailure} (h : attempt s step natural = .error f) :
    ∃ why, f = .backend why := by
  unfold attempt at h
  split at h
  case h_1 why _ => cases h; exact ⟨_, rfl⟩
  case h_2 =>
    split at h
    case h_1 e => cases h; exact ⟨_, rfl⟩
    case h_2 => cases h

/-- Replacing a file is done completely, or it fails and leaves at most a temporary file. -/
theorem replace_cases (s : Surroundings) (p : Place) (temporary name : String)
    (content : ByteArray) :
    ((p.replace s temporary name content).2 = (p.put temporary content).rename temporary name
        content ∧ (p.replace s temporary name content).1 = .ok () ∧ p.obstacle name = none) ∨
      ∃ why, (p.replace s temporary name content).1 = .error (.backend why) ∧
        ((p.replace s temporary name content).2 = p ∨
          ∃ part, (p.replace s temporary name content).2 = p.put temporary part) := by
  simp only [replace]
  split
  case h_1 f hf =>
    obtain ⟨why, rfl⟩ := exists_backend_of_attempt hf
    exact .inr ⟨why, rfl, .inl rfl⟩
  case h_2 =>
    split
    case h_1 f hf =>
      obtain ⟨why, rfl⟩ := exists_backend_of_attempt hf
      exact .inr ⟨why, rfl, .inr ⟨_, rfl⟩⟩
    case h_2 =>
      split
      case h_1 f hf =>
        obtain ⟨why, rfl⟩ := exists_backend_of_attempt hf
        exact .inr ⟨why, rfl, .inr ⟨_, rfl⟩⟩
      case h_2 =>
        split
        case h_1 f hf =>
          obtain ⟨why, rfl⟩ := exists_backend_of_attempt hf
          exact .inr ⟨why, rfl, .inr ⟨_, rfl⟩⟩
        case h_2 hr => exact .inl ⟨rfl, rfl, (attempt_eq_ok_iff.mp hr).2⟩

theorem content?_replace_of_ok {s : Surroundings} {temporary : String} (hne : name ≠ temporary)
    (h : (p.replace s temporary name content).1 = .ok ()) :
    (p.replace s temporary name content).2.content? name = some content := by
  rcases replace_cases s p temporary name content with ⟨hp, -, ho⟩ | ⟨why, hf, -⟩
  · obtain ⟨items, rfl, hn⟩ := exists_directory_of_obstacle ho
    rw [hp]
    exact content?_rename_self hne hn
  · rw [hf] at h
    cases h

/-- Files that are neither replaced nor temporary stay as they are, whether or not a step fails. -/
theorem content?_replace_of_ne {temporary : String} (ht : other ≠ temporary) (hn : other ≠ name)
    (s : Surroundings) :
    (p.replace s temporary name content).2.content? other = p.content? other := by
  rcases replace_cases s p temporary name content with ⟨hp, -, -⟩ | ⟨why, -, hp | ⟨part, hp⟩⟩
  · rw [hp, content?_rename_of_ne ht hn, content?_put_of_ne ht]
  · rw [hp]
  · rw [hp, content?_put_of_ne ht]

/-- A file is not touched before the last step. -/
theorem content?_replace_of_error {s : Surroundings} {temporary : String} {f : StoreFailure}
    (ht : other ≠ temporary) (h : (p.replace s temporary name content).1 = .error f) :
    (p.replace s temporary name content).2.content? other = p.content? other := by
  rcases replace_cases s p temporary name content with ⟨-, hok, -⟩ | ⟨why, -, hp | ⟨part, hp⟩⟩
  · rw [hok] at h
    cases h
  · rw [hp]
  · rw [hp, content?_put_of_ne ht]

/-! ## All steps -/

variable {s : Surroundings} {id : String}

theorem content?_writeDocument (h : (p.writeDocument s id content).1 = .ok ()) (other : String) :
    (p.writeDocument s id content).2.content? (documentName other) =
      if other = id then some content else p.content? (documentName other) := by
  have hfolder := content?_createFolder s p (documentName other)
  unfold writeDocument at h ⊢
  split at h
  case h_1 => cases h
  case h_2 q hq =>
    rw [hq] at hfolder
    split
    case isTrue ho =>
      rw [ho]
      exact content?_replace_of_ok (documentName_ne_temporaryName id id) h
    case isFalse hne =>
      rw [content?_replace_of_ne (documentName_ne_temporaryName other id)
        (fun hd => hne (documentName_inj.mp hd))]
      exact hfolder

theorem content?_writeDocument_of_error {f : StoreFailure}
    (h : (p.writeDocument s id content).1 = .error f) (other : String) :
    (p.writeDocument s id content).2.content? (documentName other)
      = p.content? (documentName other) := by
  have hfolder := content?_createFolder s p (documentName other)
  unfold writeDocument at h ⊢
  split at h
  case h_1 g q hq =>
    rw [hq] at hfolder
    exact hfolder
  case h_2 q hq =>
    rw [hq] at hfolder
    rw [content?_replace_of_error (documentName_ne_temporaryName other id) h]
    exact hfolder

theorem exists_backend_of_writeDocument {f : StoreFailure}
    (h : (p.writeDocument s id content).1 = .error f) : ∃ why, f = .backend why := by
  unfold writeDocument at h
  split at h
  case h_1 g q hq =>
    cases h
    unfold createFolder at hq
    split at hq
    case h_1 =>
      split at hq
      case h_1 => cases hq
      case h_2 ha =>
        cases hq
        exact exists_backend_of_attempt ha
    case h_2 =>
      injection hq with ha
      exact exists_backend_of_attempt ha
    case h_3 => cases hq
  case h_2 q hq =>
    rcases replace_cases s q (temporaryName id) (documentName id) content with
      ⟨-, hok, -⟩ | ⟨why, hf, -⟩
    · rw [hok] at h
      cases h
    · rw [hf] at h
      cases h
      exact ⟨why, rfl⟩

end Place

/-- Nothing is in the way of writing a document: no step is going to fail, and no folder stands in
the place of the temporary file. -/
structure Unhindered (s : Surroundings) (p : Place) (id : String) : Prop where
  faultless : ∀ step, s.fault step = none
  not_folder : p.look (temporaryName id) ≠ .folder

/-- In a directory that has room for the document, all steps are done if nothing is in the way. -/
theorem writeDocument_directory {s : Surroundings} {items : Keyed Item} {id : String}
    (h : Unhindered s (.directory items) id) (hn : ¬ nameLimit < (documentName id).utf8ByteSize)
    (hd : (Place.directory items).look (documentName id) ≠ .folder) (content : ByteArray) :
    ((Place.directory items).writeDocument s id content).1 = .ok () := by
  have hobstacle : ∀ name, ¬ nameLimit < name.utf8ByteSize →
      (Place.directory items).look name ≠ .folder →
      (Place.directory items).obstacle name = none := by
    intro name hroom hfolder
    simp only [Place.obstacle, Place.look, if_neg hroom] at hfolder ⊢
    cases hitem : items.find? name with
    | none => rfl
    | some item =>
      cases item with
      | file content => rfl
      | folder => exact absurd (by rw [hitem]; rfl) hfolder
  have ht : ¬ nameLimit < (temporaryName id).utf8ByteSize := by
    have := size_temporaryName_le id
    omega
  have hcreate := hobstacle (temporaryName id) ht h.not_folder
  have hrename := hobstacle (documentName id) hn hd
  have hattempt : ∀ step, Place.attempt s step none = .ok () := fun step =>
    Place.attempt_eq_ok_iff.mpr ⟨h.faultless step, rfl⟩
  simp [Place.writeDocument, Place.createFolder, Place.replace, hcreate, hrename, hattempt]

/-- Where a document is stored already, all steps are done if nothing is in the way. -/
theorem writeDocument_of_unhindered {s : Surroundings} {p : Place} {id : String}
    (h : Unhindered s p id) {found : ByteArray} (hf : p.content? (documentName id) = some found)
    (content : ByteArray) : (p.writeDocument s id content).1 = .ok () := by
  have hd := Place.content?_eq_some_iff.mp hf
  cases p with
  | directory items =>
    refine writeDocument_directory h ?_ (by simp [hd]) content
    intro hlong
    simp [Place.look, hlong] at hd
  | _ => cases hd

end BlueprintControl
