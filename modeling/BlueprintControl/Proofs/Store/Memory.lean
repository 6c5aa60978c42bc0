import BlueprintControl.Proofs.Domain.Frame
import BlueprintControl.Proofs.Store.Documents
import BlueprintControl.Store.Session

/-!
# No update is lost

Many blueprints are held in memory, and others write to the directory as well. Each blueprint
remembers one document, the one it last read or wrote. What ties the two together is `Linked`: the
version of a blueprint is the version of the document it remembers. So an update finds out whether
the document has been replaced or removed in the meantime.

## Main definitions

* `Memory`: the document that the blueprint in each slot remembers.
* `Session.memorize`, `Session.remembered`: the memory after a deed, and after a list of them.
* `Session.Linked`: versions are those of the documents remembered.

## Main statements

* `Session.Linked.step`, `Session.Linked.run`: versions stay linked to documents.
* `Session.no_lost_update`: an update succeeds exactly on the document that is remembered.
-/
namespace BlueprintControl

/-- Versions come from the store: a blueprint that is put into a slot has none. -/
def Deed.IsFresh : Deed → Prop
  | .hold _ b => b.version = none
  | _ => True

/-- The result is that of a deed in which a step of writing failed. -/
def DeedResult.IsHindered : DeedResult → Prop
  | .failed (.store (.backend _)) => True
  | _ => False

/-- The document that the blueprint in each slot has last read or written, if any. -/
def Memory : Type := String → Option ByteArray

namespace Memory

/-- Nothing has been read or written. -/
def nothing : Memory := fun _ => none

/-- Another document is remembered in a slot. -/
def remember (m : Memory) (slot : String) (content : Option ByteArray) : Memory := fun other =>
  if other = slot then content else m other

end Memory

namespace Session

/-- The document of the blueprint in a slot. -/
def documentIn (s : Session) (slot : String) : Option ByteArray :=
  (s.slots.find? slot).bind fun b => s.store.document? b.id

/-- The memory after a deed with this result, which has led from one session to the other. Reading
and writing replace what is remembered, a failure does not. -/
def memorize (m : Memory) (s s' : Session) : Deed → DeedResult → Memory
  | .hold slot _, _ => m.remember slot none
  | .create slot, .done | .update slot, .done => m.remember slot (s'.documentIn slot)
  | .load slot id, .done => m.remember slot (s.store.document? id)
  | .adopt slot d, .done => match s.store.load d.id with
    | .ok b =>
      if b.config = d.config then m.remember slot (s.store.document? d.id)
      else m.remember slot (s'.documentIn slot)
    | .error _ => m.remember slot (s'.documentIn slot)
  | _, _ => m

/-- The memory after deeds in order. -/
def remembered (s : Session) (m : Memory) : List Deed → Memory
  | [] => m
  | d :: rest =>
    let (r, s') := s.step d
    s'.remembered (memorize m s s' d r) rest

/-- The version of each blueprint is the version of the document it remembers. -/
def Linked (s : Session) (m : Memory) : Prop :=
  ∀ slot b, s.slots.find? slot = some b → b.version = (m slot).map versionOf

variable {s : Session} {m : Memory} {slot : String} {b : Blueprint}

theorem linked_nothing (hs : s.slots = .empty) : s.Linked .nothing := by
  intro slot b hb
  rw [hs, Keyed.find?_empty] at hb
  cases hb

/-! ## Holding what the store gives -/

theorem settle_eq_done_iff {o : Except Failure Blueprint × Store} :
    (s.settle slot o).1 = .done ↔ ∃ b, o.1 = .ok b := by
  obtain ⟨result, store⟩ := o
  cases result <;> simp [settle]

theorem settle_eq_failed_iff {o : Except Failure Blueprint × Store} {f : Failure} :
    (s.settle slot o).1 = .failed f ↔ o.1 = .error f := by
  obtain ⟨result, store⟩ := o
  cases result <;> simp [settle]

@[simp] theorem store_settle (o : Except Failure Blueprint × Store) :
    (s.settle slot o).2.store = o.2 := by
  obtain ⟨result, store⟩ := o
  cases result <;> rfl

namespace Linked

/-- `Linked` reads nothing but the slots. -/
theorem of_slots {s' : Session} (hl : s.Linked m) (h : s'.slots = s.slots) : s'.Linked m :=
  fun slot b hb => hl slot b (h ▸ hb)

theorem hold {content : Option ByteArray} (hl : s.Linked m)
    (hv : b.version = content.map versionOf) :
    (s.hold slot b).Linked (m.remember slot content) := by
  intro other b' hb'
  simp only [Session.hold, Keyed.find?_put] at hb'
  by_cases h : other = slot
  · rw [if_pos h] at hb'
    cases hb'
    simpa [Memory.remember, h] using hv
  · rw [if_neg h] at hb'
    simpa [Memory.remember, h] using hl other b' hb'

/-- What a blueprint has written it remembers. -/
theorem settle {o : Except Failure Blueprint × Store} {b' : Blueprint} (hl : s.Linked m)
    (ho : s.store.Outcome b o) (hok : o.1 = .ok b') :
    (s.settle slot o).2.Linked (m.remember slot ((s.settle slot o).2.documentIn slot)) := by
  cases ho with
  | written content s' hd =>
    refine Linked.hold (s := { s with store := s' }) ?_ ?_
    · exact hl.of_slots rfl
    · simp [documentIn, Session.settle, Session.hold, Blueprint.drained, hd]
  | refused f s' hd => cases hok

theorem settle_of_error {o : Except Failure Blueprint × Store} {f : Failure} (hl : s.Linked m)
    (ho : o.1 = .error f) : (s.settle slot o).2.Linked m := by
  obtain ⟨result, store⟩ := o
  cases ho
  exact hl.of_slots rfl

theorem load (hl : s.Linked m) (slot id : String) :
    (s.settle slot (s.store.load id, s.store)).2.Linked
      (memorize m s (s.settle slot (s.store.load id, s.store)).2 (.load slot id)
        (s.settle slot (s.store.load id, s.store)).1) := by
  cases hload : s.store.load id with
  | error f => exact hl.of_slots rfl
  | ok b =>
    obtain ⟨content, r, hd, -, -, rfl⟩ := Store.load_eq_ok_iff.mp hload
    refine Linked.hold (s := { s with store := s.store }) hl ?_
    simp [hd]

/-- Whatever the result, writing the blueprint of a slot links it to what it has written. -/
theorem write {o : Except Failure Blueprint × Store} {d : Deed} (hl : s.Linked m)
    (ho : s.store.Outcome b o)
    (hdone : ∀ s', memorize m s s' d .done = m.remember slot (s'.documentIn slot))
    (hfailed : ∀ s' f, memorize m s s' d (.failed f) = m) :
    (s.settle slot o).2.Linked (memorize m s (s.settle slot o).2 d (s.settle slot o).1) := by
  cases hresult : o.1 with
  | ok b' =>
    rw [settle_eq_done_iff.mpr ⟨b', hresult⟩, hdone]
    exact hl.settle ho hresult
  | error f =>
    rw [settle_eq_failed_iff.mpr hresult, hfailed]
    exact hl.settle_of_error hresult

theorem adopt (hl : s.Linked m) (slot : String) (d : BlueprintDocument) (w : Surroundings) :
    (s.settle slot (d.adopt w s.store)).2.Linked
      (memorize m s (s.settle slot (d.adopt w s.store)).2 (.adopt slot d)
        (s.settle slot (d.adopt w s.store)).1) := by
  cases hload : s.store.load d.id with
  | error f =>
    have ho : s.store.Outcome d.toBlueprint (d.adopt w s.store) := by
      simp only [BlueprintDocument.adopt, hload]
      split
      · exact Store.outcome_create w s.store d.toBlueprint
      · exact Store.outcome_refused s.store d.toBlueprint f
    exact hl.write ho (fun s' => by simp only [memorize, hload]) (fun _ _ => rfl)
  | ok b =>
    by_cases hsame : b.config = d.config
    · -- Nothing is written: the document has been read.
      have ho : d.adopt w s.store = (.ok b, s.store) := by
        simp only [BlueprintDocument.adopt, hload, if_pos hsame]
      obtain ⟨content, r, hd, -, -, rfl⟩ := Store.load_eq_ok_iff.mp hload
      rw [ho]
      simp only [Session.settle, memorize, hload, if_pos hsame]
      exact Linked.hold (s := { s with store := s.store }) hl (by simp [hd])
    · have ho : s.store.Outcome { b with config := d.config } (d.adopt w s.store) := by
        simp only [BlueprintDocument.adopt, hload, if_neg hsame]
        exact Store.outcome_update w s.store _
      exact hl.write ho (fun s' => by simp only [memorize, hload, if_neg hsame]) (fun _ _ => rfl)

theorem act {d : Deed} (hl : s.Linked m) (hd : d.IsFresh) (w : Surroundings) :
    (s.act w d).2.Linked (memorize m s (s.act w d).2 d (s.act w d).1) := by
  cases d with
  | hold slot b => exact hl.hold (by simpa [Deed.IsFresh] using hd)
  | create slot =>
    simp only [Session.act]
    split
    case h_1 b hb =>
      exact hl.write (Store.outcome_create w s.store b) (fun _ => rfl) (fun _ _ => rfl)
    case h_2 => exact hl
  | load slot id => exact hl.load slot id
  | update slot =>
    simp only [Session.act]
    split
    case h_1 b hb =>
      exact hl.write (Store.outcome_update w s.store b) (fun _ => rfl) (fun _ _ => rfl)
    case h_2 => exact hl
  | perform slot o =>
    simp only [Session.act]
    split
    case h_1 b hb =>
      intro other b' hb'
      simp only [Session.hold, Keyed.find?_put] at hb'
      split at hb'
      case isTrue h =>
        cases hb'
        rw [h, (b.perform_frame w.now o).2.2]
        exact hl slot b hb
      case isFalse => exact hl other b' hb'
    case h_2 => exact hl
  | adopt slot d => exact hl.adopt slot d w
  | deposit name item =>
    simp only [Session.act, disturb]
    split <;> exact hl.of_slots rfl
  | remove name =>
    simp only [Session.act, disturb]
    split <;> exact hl.of_slots rfl

/-- One deed keeps versions linked to what is remembered. -/
theorem step {d : Deed} (hl : s.Linked m) (hd : d.IsFresh) :
    (s.step d).2.Linked (memorize m s (s.step d).2 d (s.step d).1) := by
  have h := hl.act hd (s.around s.next)
  cases d <;> exact h.of_slots rfl

theorem run {deeds : List Deed} (hl : s.Linked m) (hd : ∀ d ∈ deeds, d.IsFresh) :
    (s.run deeds).2.Linked (s.remembered m deeds) := by
  induction deeds generalizing s m with
  | nil => exact hl
  | cons d rest ih =>
    obtain ⟨hd, hrest⟩ := List.forall_mem_cons.mp hd
    exact ih (hl.step hd) hrest

end Linked

/-! ## Updates -/

section Update

variable {t : Session} (hb : t.slots.find? slot = some b)
include hb

theorem step_update : (t.step (.update slot)).1
      = (t.settle slot (t.store.update (t.around t.next) b)).1 ∧
    (t.step (.update slot)).2.store = (t.store.update (t.around t.next) b).2 := by
  simp [step, act, hb]

theorem isCurrent_of_done (h : (t.step (.update slot)).1 = .done) : t.store.IsCurrent b := by
  rw [(step_update hb).1, settle_eq_done_iff] at h
  obtain ⟨b', h⟩ := h
  exact Store.isCurrent_of_update h

theorem done_of_isCurrent (hc : t.store.IsCurrent b)
    (hio : ¬ (t.step (.update slot)).1.IsHindered) : (t.step (.update slot)).1 = .done := by
  rw [(step_update hb).1] at hio ⊢
  cases hresult : (t.store.update (t.around t.next) b).1 with
  | ok b' => exact settle_eq_done_iff.mpr ⟨b', hresult⟩
  | error f =>
    obtain ⟨why, rfl⟩ := Store.exists_backend_of_update hc hresult
    rw [settle_eq_failed_iff.mpr hresult] at hio
    exact absurd trivial hio

theorem not_isHindered_of_unhindered (hu : Unhindered (t.around t.next) t.store.place b.id) :
    ¬ (t.step (.update slot)).1.IsHindered := by
  rw [(step_update hb).1]
  intro h
  cases hresult : (t.settle slot (t.store.update (t.around t.next) b)).1 with
  | failed f =>
    rw [hresult] at h
    match f, h with
    | .store (.backend why), _ => exact Store.update_ne_backend hu (settle_eq_failed_iff.mp hresult)
  | _ => rw [hresult] at h; exact h

/-- A document that is changed by an update is that of the blueprint, which is current. -/
theorem isCurrent_of_changed {id : String}
    (h : (t.step (.update slot)).2.store.document? id ≠ t.store.document? id) :
    id = b.id ∧ t.store.IsCurrent b := by
  rw [(step_update hb).2] at h
  have ho := Store.outcome_update (t.around t.next) t.store b
  generalize hupdate : t.store.update (t.around t.next) b = o at h ho
  cases ho with
  | written content s' hd =>
    refine ⟨?_, Store.isCurrent_of_update (congrArg Prod.fst hupdate)⟩
    exact Classical.byContradiction fun hne => h (by simp [hd, hne])
  | refused f s' hd => exact absurd (hd id) h

end Update

/-- **No lost update.** In every session, an update that no step of writing fails succeeds exactly
if the document is readable and is the one the blueprint has last read or written, and where
nothing is in the way no step fails. So no update replaces a document that its blueprint has not
seen, and none brings back a document that was removed. -/
theorem no_lost_update (s : Session) (hs : s.slots = .empty) (deeds : List Deed)
    (hd : ∀ d ∈ deeds, d.IsFresh) (slot : String) (b : Blueprint)
    (hb : (s.run deeds).2.slots.find? slot = some b)
    (hv : ∀ seen found, s.remembered .nothing deeds slot = some seen →
      (s.run deeds).2.store.document? b.id = some found →
      versionOf seen = versionOf found → seen = found) :
    let t := (s.run deeds).2
    let seen := s.remembered .nothing deeds slot
    let after := t.step (.update slot)
    (¬ after.1.IsHindered → (after.1 = .done ↔
      ∃ content, t.store.document? b.id = some content ∧ Record.Readable content ∧
        seen = some content)) ∧
    (Unhindered (t.around t.next) t.store.place b.id → ¬ after.1.IsHindered) ∧
    (∀ id, after.2.store.document? id ≠ t.store.document? id →
      id = b.id ∧ ∃ content, t.store.document? id = some content ∧ seen = some content) := by
  intro t seen after
  have hl : t.Linked (s.remembered .nothing deeds) := (linked_nothing hs).run hd
  have hversion : b.version = seen.map versionOf := hl slot b hb
  have hcurrent : t.store.IsCurrent b ↔ ∃ content, t.store.document? b.id = some content ∧
      Record.Readable content ∧ seen = some content := by
    refine exists_congr fun content => and_congr_right fun hdoc => and_congr_right fun _ => ?_
    rw [hversion, Option.map_eq_some_iff]
    constructor
    · rintro ⟨other, hother, heq⟩
      rw [hother, hv other content hother hdoc heq]
    · intro h
      exact ⟨content, h, rfl⟩
  refine ⟨fun hio => ?_, not_isHindered_of_unhindered hb, ?_⟩
  · rw [← hcurrent]
    exact ⟨isCurrent_of_done hb, fun hc => done_of_isCurrent hb hc hio⟩
  · intro id hchanged
    obtain ⟨rfl, hc⟩ := isCurrent_of_changed hb hchanged
    obtain ⟨content, hdoc, -, hseen⟩ := hcurrent.mp hc
    exact ⟨rfl, content, hdoc, hseen⟩

/-- A blueprint that has just been loaded can be updated. Once its document is removed it cannot,
and the document stays away. -/
theorem update_until_removed :
    let found : ByteArray := "\x7b\"format_version\":\"1.0\",\"id\":\"a\",\"spec\":\x7b\x7d,
      \"status\":\x7b\x7d,\"last_updated\":\"1970-01-01T00:00:00Z\"\x7d".toUTF8
    let s : Session :=
      ⟨⟨"state", .directory ⟨[("a.json", .file found)]⟩⟩, .empty,
        fun _ => .smooth default fun _ => default, 0⟩
    ((s.run [.load "x" "a"]).2.step (.update "x")).1 = .done ∧
      ((s.run [.load "x" "a", .remove "a.json"]).2.step (.update "x")).1 ≠ .done ∧
      ((s.run [.load "x" "a", .remove "a.json"]).2.step (.update "x")).2.store.document? "a"
        = none := by
  intro found s
  obtain ⟨r, hr, hformat, hid⟩ :
      ∃ r, Record.ofContent found = .ok r ∧ r.format = formatVersion ∧ r.id = "a" := by
    have h : (Record.ofContent found).toOption.any
        (fun r => r.format = formatVersion ∧ r.id = "a") := by
      unfold found
      decide +kernel
    cases hr : Record.ofContent found with
    | ok r => exact ⟨r, rfl, by simpa [hr, Except.toOption] using h⟩
    | error f => simp [hr, Except.toOption] at h
  have hdoc : s.store.document? "a" = some found := by
    unfold s found
    rfl
  obtain ⟨b, hload, hb⟩ : ∃ b, s.store.load "a" = .ok b ∧ b.id = "a" :=
    ⟨_, Store.load_eq_ok_iff.mpr ⟨found, r, hdoc, hr, hformat, rfl⟩, hid⟩
  have hloaded : (s.run [.load "x" "a"]).2
      = { s with slots := s.slots.put "x" b, next := 1 } := by
    simp [run, step, act, hload, settle, hold, s]
  have hremoved : (s.run [.load "x" "a", .remove "a.json"]).2
      = { s with store := ⟨"state", .directory .empty⟩, slots := s.slots.put "x" b, next := 2 } := by
    have hplace : s.store.place.remove? "a.json" = some (.directory .empty) := by rfl
    simp [run, step, act, hload, settle, hold, disturb, hplace, s]
  have hseen : s.remembered .nothing [.load "x" "a"] "x" = some found := by
    simp [remembered, step, act, hload, settle, memorize, Memory.remember, hdoc]
  have hkept : (s.run [.load "x" "a"]).2.store.document? b.id = some found := by
    rw [hloaded, hb]
    exact hdoc
  have hgone : (s.run [.load "x" "a", .remove "a.json"]).2.store.document? "a" = none := by
    rw [hremoved]
    rfl
  obtain ⟨hdone, hio, -⟩ := no_lost_update s rfl [.load "x" "a"] (by simp [Deed.IsFresh]) "x" b
    (by simp [hloaded]) fun seen other h₁ h₂ _ =>
      Option.some.inj (h₁.symm.trans (hseen.trans (hkept.symm.trans h₂)))
  obtain ⟨hnot, -, hsame⟩ := no_lost_update s rfl [.load "x" "a", .remove "a.json"]
    (by simp [Deed.IsFresh]) "x" b (by simp [hremoved])
    fun seen other _ h₂ _ => by
      rw [hb, hgone] at h₂
      cases h₂
  refine ⟨(hdone (hio ?_)).mpr ⟨found, hkept, ⟨r, hr, hformat⟩, hseen⟩, ?_, ?_⟩
  · have hlook : s.store.place.look (temporaryName "a") = .absent .missing := by rfl
    rw [hloaded, hb]
    exact ⟨fun _ => rfl, by simp [hlook]⟩
  · intro h
    obtain ⟨content, hc, -⟩ := (hnot (by rw [h]; exact id)).mp h
    rw [hb, hgone] at hc
    cases hc
  · refine Classical.byContradiction fun h => ?_
    obtain ⟨-, content, hc, -⟩ := hsame "a" fun heq => h (heq.trans hgone)
    rw [hgone] at hc
    cases hc

end Session
end BlueprintControl
