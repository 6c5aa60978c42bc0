import BlueprintControl.Proofs.Domain.Frame
import BlueprintControl.Proofs.Store.Listing

/-!
# Where a blueprint is written back

A blueprint is loaded from the document under one identifier and written to the document under
another one, the identifier that the first document holds inside. The two are the same as long as
documents are named after what they hold. The store keeps to this, but a document that somebody
else has copied or renamed does not.

## Main definitions

* `Store.Straight`: documents are named after what they hold.
* `Store.Replaced`: one document has been replaced, by the record of its blueprint.

## Main statements

* `update_of_load`: where a blueprint that has been loaded is written, and when.
* `update_of_copy`: a blueprint that is written to another document than it was loaded from.
* `Straight.wrote`, `Session.straight_run`: the store itself names documents after what they hold.
-/
namespace BlueprintControl

namespace Store

variable {s s' : Store} {id other : String} {b b' : Blueprint} {w : Surroundings} {f : Failure}

/-- Every document that can be read is named after the blueprint that it holds. -/
def Straight (s : Store) : Prop :=
  ∀ id content r, s.document? id = some content → Record.ofContent content = .ok r → r.id = id

/-- The document of a blueprint has been replaced by its record, behind the events published before,
and no other document is touched. -/
structure Replaced (w : Surroundings) (s : Store) (b : Blueprint) (s' : Store) : Prop where
  written : ∃ published, s.history b.id = .ok published ∧
    s'.document? b.id = some (recordOf w b published).document.toUTF8
  others : ∀ other, other ≠ b.id → s'.document? other = s.document? other

theorem document?_eq_some_iff {content : ByteArray} : s.document? id = some content ↔
    isValidId id = true ∧ s.place.content? (documentName id) = some content := by
  constructor
  · intro h
    exact ⟨isValidId_of_document? h, content?_of_document? h⟩
  · rintro ⟨hid, h⟩
    rwa [document?, if_pos hid]

/-! ## Updates of what has been loaded -/

theorem Straight.id_of_load (h : s.Straight) (hload : s.load id = .ok b) : b.id = id := by
  obtain ⟨content, r, hd, hr, -, rfl⟩ := load_eq_ok_iff.mp hload
  exact h id content r hd hr

/-- What has been loaded is current, if it has been loaded under its own identifier. -/
theorem isCurrent_of_load (hload : s.load id = .ok b) (hid : b.id = id) : s.IsCurrent b := by
  obtain ⟨content, r, hd, hr, hf, rfl⟩ := load_eq_ok_iff.mp hload
  exact ⟨content, by rw [hid, hd], ⟨r, hr, hf⟩, rfl⟩

theorem replaced_of_update (h : s.update w b = (.ok b', s')) : s.Replaced w b s' := by
  obtain ⟨published, hcurrent⟩ :=
    exists_current_iff.mpr (isCurrent_of_update (congrArg Prod.fst h))
  obtain ⟨content, r, hd, hr, hf, -, rfl⟩ := current_eq_ok_iff.mp hcurrent
  have hhistory : s.history b.id = .ok r.events :=
    history_of_read (read_eq_ok_iff.mpr ⟨content, hd, hr, hf, rfl⟩)
  have hwrite : s.write w b r.events = (.ok b', s') := by
    rw [← h]
    simp only [update, hcurrent]
  obtain ⟨t, hwritten, hdocs⟩ | ⟨g, t, hfailed, -⟩ :=
    write_cases w (isValidId_of_document? hd) r.events
  · cases hwritten.symm.trans hwrite
    refine ⟨⟨r.events, hhistory, by rw [hdocs, if_pos rfl]⟩, ?_⟩
    intro other hne
    rw [hdocs, if_neg hne]
  · cases hfailed.symm.trans hwrite

theorem document?_of_update_error (h : s.update w b = (.error f, s')) (other : String) :
    s'.document? other = s.document? other := by
  have ho := outcome_update w s b
  rw [h] at ho
  cases ho with
  | refused f s' hd => exact hd other

/-- **Where a blueprint is written back.** A blueprint that has been loaded has the identifier that
the document holds inside, and keeps it in all operations. An update of it replaces the document
under this identifier, and no other, or it touches no document. If nothing is in the way it succeeds
exactly if the document under this identifier has the version of the one that has been loaded. So it
succeeds, and replaces the document that has been loaded, if this document is named after the
blueprint that it holds. -/
theorem update_of_load (s : Store) (id : String) (b : Blueprint) (hload : s.load id = .ok b)
    (os : List (Operation × Stamp)) (w : Surroundings) :
    let u := b.performAll os
    (∃ content r, s.document? id = some content ∧ Record.ofContent content = .ok r ∧
      u.id = r.id ∧ u.version = some (versionOf content)) ∧
    (∀ b' s', s.update w u = (.ok b', s') → s.Replaced w u s') ∧
    (∀ f s', s.update w u = (.error f, s') → ∀ other, s'.document? other = s.document? other) ∧
    (Unhindered w s.place u.id → ((∃ b' s', s.update w u = (.ok b', s')) ↔ s.IsCurrent u)) ∧
    (u.id = id → Unhindered w s.place id →
      ∃ b' s', s.update w u = (.ok b', s') ∧ s.Replaced w u s') := by
  intro u
  obtain ⟨hid, -, hversion⟩ := b.performAll_frame os
  have hinside : ∃ content r, s.document? id = some content ∧ Record.ofContent content = .ok r ∧
      u.id = r.id ∧ u.version = some (versionOf content) := by
    obtain ⟨content, r, hd, hr, -, rfl⟩ := load_eq_ok_iff.mp hload
    exact ⟨content, r, hd, hr, hid, hversion⟩
  refine ⟨hinside, fun b' s' => replaced_of_update, fun f s' => document?_of_update_error, ?_, ?_⟩
  · intro hclear
    constructor
    · rintro ⟨b', s', hupdate⟩
      exact isCurrent_of_update (congrArg Prod.fst hupdate)
    · intro hcurrent
      exact exists_update hcurrent hclear
  · intro hown hclear
    have hcurrent : s.IsCurrent u :=
      (isCurrent_of_load hload (hid.symm.trans hown)).congr hid hversion
    obtain ⟨b', s', hupdate⟩ := exists_update hcurrent (hown.symm ▸ hclear)
    exact ⟨b', s', hupdate, replaced_of_update hupdate⟩

/-! ## Copies -/

/-- A new record. -/
def newRecord (id : String) : Record := ⟨formatVersion, id, .plain, .empty, .empty, [], default⟩

/-- A directory in which the document of a blueprint has been copied. -/
def copied : Store :=
  let content := (newRecord "a").document.toUTF8
  ⟨"state", .directory ((Keyed.empty.put "a.json" (.file content)).put "b.json" (.file content))⟩

theorem document?_copied (h : id = "a" ∨ id = "b") :
    copied.document? id = some (newRecord "a").document.toUTF8 := by
  rcases h with rfl | rfl <;> rfl

theorem load_copied (h : id = "a" ∨ id = "b") :
    ∃ b, copied.load id = .ok b ∧ b.id = "a" ∧ copied.IsCurrent b := by
  refine ⟨_, load_of_document (document?_copied h) rfl, rfl, ?_⟩
  exact ⟨_, document?_copied (.inl rfl), ⟨_, Record.ofContent_document _, rfl⟩, rfl⟩

/-- Nothing is in the way of writing the document that has been copied. -/
theorem unhindered_copied :
    Unhindered (.smooth default fun _ => default) copied.place "a" :=
  ⟨fun _ => rfl, nofun⟩

/-- The blueprint is loaded from the document that has been copied, and written back there. -/
theorem update_of_original :
    ∃ b, copied.load "a" = .ok b ∧
      let u := b.performAll [(.completeApply .dogus none, default)]
      ∃ b' s', copied.update (.smooth default fun _ => default) u = (.ok b', s') ∧
        copied.Replaced (.smooth default fun _ => default) u s' ∧
        s'.document? "b" = copied.document? "b" := by
  obtain ⟨b, hload, hid, -⟩ := load_copied (.inl rfl)
  obtain ⟨-, -, -, -, hupdate⟩ := update_of_load copied "a" b hload
    [(.completeApply .dogus none, default)] (.smooth default fun _ => default)
  have hown : (b.performAll [(.completeApply .dogus none, default)]).id = "a" :=
    (b.performAll_frame _).1.trans hid
  obtain ⟨b', s', hupdate, hreplaced⟩ := hupdate hown unhindered_copied
  exact ⟨b, hload, b', s', hupdate, hreplaced, hreplaced.others "b" (by rw [hown]; decide)⟩

/-- The blueprint is loaded from the copy. The copy stays as it is, and the other document is
replaced. -/
theorem update_of_copy :
    ∃ b, copied.load "b" = .ok b ∧ b.id ≠ "b" ∧
      ∃ b' s', copied.update (.smooth default fun _ => default)
          (b.performAll [(.completeApply .dogus none, default)]) = (.ok b', s') ∧
        s'.document? "b" = copied.document? "b" ∧
        s'.document? "a" ≠ copied.document? "a" := by
  obtain ⟨b, hload, hid, hcurrent⟩ := load_copied (.inr rfl)
  obtain ⟨hsame, -, hversion⟩ := b.performAll_frame [(.completeApply .dogus none, default)]
  have hown := hsame.trans hid
  obtain ⟨b', s', hupdate⟩ := exists_update (hcurrent.congr hsame hversion)
    (hown.symm ▸ unhindered_copied)
  obtain ⟨⟨published, -, hwritten⟩, hothers⟩ := replaced_of_update hupdate
  refine ⟨b, hload, by rw [hid]; decide, b', s', hupdate, hothers "b" (by rw [hown]; decide), ?_⟩
  -- The new document is read as a record with a condition, the old one as a record without any.
  rw [hown] at hwritten
  rw [hwritten, document?_copied (.inl rfl), ne_eq, Option.some.injEq]
  intro heq
  have hread := Record.ofContent_document (newRecord "a")
  rw [← heq, Record.ofContent_document, Except.ok.injEq] at hread
  have hconditions : (b.completeApply .dogus none default).blueprint.conditions = .empty :=
    congrArg Record.conditions hread
  obtain ⟨c, hc, -⟩ := b.shows_completeApply .dogus default
  rw [hconditions] at hc
  cases hc

/-! ## Keeping to the names -/

theorem Straight.of_documents (h : s.Straight)
    (hdocs : ∀ id content, s'.document? id = some content → s.document? id = some content) :
    s'.Straight :=
  fun id content r hd hr => h id content r (hdocs id content hd) hr

/-- Whatever is written is named after what it holds. -/
theorem Straight.wrote {o : Except Failure Blueprint × Store} (h : s.Straight)
    (ho : Wrote w s b o) : o.2.Straight := by
  cases ho with
  | written published s' ha hd =>
    intro id content r hcontent hr
    rw [hd] at hcontent
    split at hcontent
    case isTrue hid =>
      cases hcontent
      cases (Record.ofContent_document _).symm.trans hr
      exact hid.symm
    case isFalse => exact h id content r hcontent hr
  | refused f s' hd => exact h.of_documents fun id content hc => hd id ▸ hc

end Store

namespace Place

variable {p q : Place} {name other : String} {item : Item} {content : ByteArray}

theorem content?_eq_directory (p : Place) (name : String) :
    p.content? name = (directory p.items).content? name := by
  cases p with
  | directory items => rfl
  | _ =>
    rw [content?_directory]
    simp [content?, look, Place.items]

/-- A file that is found after something has been put into the directory was there before, or it has
been put there. -/
theorem content?_of_deposit (h : p.deposit? name item = some q)
    (hc : q.content? other = some content) :
    p.content? other = some content ∨ other = name ∧ item = .file content := by
  obtain ⟨hlong, rfl⟩ := deposit?_eq_some h
  rw [content?_eq_directory p]
  rw [content?_directory, Keyed.find?_put] at hc
  by_cases heq : other = name
  · right
    rw [heq, if_neg (Nat.not_lt.mpr hlong), if_pos rfl] at hc
    refine ⟨heq, ?_⟩
    split at hc
    case h_1 hitem => cases hc; exact Option.some.inj hitem
    case h_2 => cases hc
  · left
    rw [if_neg heq] at hc
    rwa [content?_directory]

theorem content?_of_remove (h : p.remove? name = some q) (hc : q.content? other = some content) :
    p.content? other = some content := by
  obtain rfl := remove?_eq_some h
  rw [content?_eq_directory p]
  rw [content?_directory, Keyed.find?_erase] at hc
  by_cases heq : other = name
  · simp [heq] at hc
  · rw [if_neg heq] at hc
    rwa [content?_directory]

end Place

/-- Whoever puts a document into the directory names it after the blueprint that it holds. -/
def Deed.KeepsStraight : Deed → Prop
  | .deposit name (.file content) => ∀ id r, name = documentName id →
      Record.ofContent content = .ok r → r.id = id
  | _ => True

namespace Session

variable {s : Session} {deeds : List Deed}

/-- A deed keeps documents named after what they hold. -/
theorem straight_step (h : s.store.Straight) {d : Deed} (hd : d.KeepsStraight) :
    (s.step d).2.store.Straight := by
  have hturns := s.turns_step d
  generalize (s.step d).2.store = t at hturns
  cases hturns with
  | kept => exact h
  | created b => exact h.wrote (Store.wrote_create _ _ b)
  | updated b => exact h.wrote (Store.wrote_update _ _ b)
  | deposited hp =>
    intro id content r hdocument hr
    obtain ⟨hid, hc⟩ := Store.document?_eq_some_iff.mp hdocument
    rcases Place.content?_of_deposit hp hc with hbefore | ⟨hname, rfl⟩
    · exact h id content r (Store.document?_eq_some_iff.mpr ⟨hid, hbefore⟩) hr
    · exact hd id r hname.symm hr
  | removed hp =>
    refine h.of_documents fun id content hdocument => ?_
    obtain ⟨hid, hc⟩ := Store.document?_eq_some_iff.mp hdocument
    exact Store.document?_eq_some_iff.mpr ⟨hid, Place.content?_of_remove hp hc⟩

/-- As long as nobody else puts documents under other names, every document is named after what it
holds. -/
theorem straight_run (h : s.store.Straight) (hdeeds : ∀ d ∈ deeds, d.KeepsStraight) :
    (s.run deeds).2.store.Straight := by
  induction deeds generalizing s with
  | nil => exact h
  | cons d rest ih =>
    obtain ⟨hd, hrest⟩ := List.forall_mem_cons.mp hdeeds
    exact ih (straight_step h hd) hrest

/-- So every blueprint is written back to the document from which it was loaded. -/
theorem id_of_load_run (h : s.store.Straight) (hdeeds : ∀ d ∈ deeds, d.KeepsStraight)
    {id : String} {b : Blueprint} (hload : (s.run deeds).2.store.load id = .ok b) : b.id = id :=
  (straight_run h hdeeds).id_of_load hload

end Session
end BlueprintControl
