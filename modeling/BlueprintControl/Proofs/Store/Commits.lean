import BlueprintControl.Proofs.Domain.Operations
import BlueprintControl.Proofs.Store.Documents
import BlueprintControl.Proofs.Store.Record
import BlueprintControl.Store.Session

/-!
# Commits of a session

As long as nobody else writes to the directory, documents change in one way only: a blueprint is
handed over to be written, and its document is replaced. `Session.Moved` lists what a deed can do,
and everything that is proved about whole sessions is proved from it.

## Main definitions

* `Deed.IsOwn`: nobody else writes to the directory.
* `Commit`, `Session.commits`: the blueprints that were written, as they were handed over.
* `Session.Moved`: what a deed can do to slots and documents.

## Main statements

* `Store.Wrote.exists_read`: what has been written is read back, at the version returned.
* `Session.moved_step`: a deed does nothing else.
* `Session.run_induction`: what every such move preserves holds after every run.
-/
namespace BlueprintControl

/-- One of the operations on a store and on blueprints in memory: nobody else writes to the
directory. -/
def Deed.IsOwn : Deed → Prop
  | .adopt _ _ | .deposit _ _ | .remove _ => False
  | _ => True

/-- A blueprint that was written, as it was handed over, and the slot that holds it. -/
structure Commit where
  slot : String
  blueprint : Blueprint

namespace Store

variable {s : Store} {b b' : Blueprint} {w : Surroundings} {r : Record} {v : ResourceVersion}
  {o : Except Failure Blueprint × Store}

/-- What is read of a document that was written. -/
theorem read_of_document {id : String} (hd : s.document? id = some r.document.toUTF8)
    (hf : r.format = formatVersion) : s.read id = .ok (r.remade, versionOf r.document.toUTF8) :=
  read_eq_ok_iff.mpr ⟨_, hd, r.ofContent_document, hf, rfl⟩

theorem load_of_document {id : String} (hd : s.document? id = some r.document.toUTF8)
    (hf : r.format = formatVersion) : s.load id
      = .ok { r.remade.toBlueprint with version := some (versionOf r.document.toUTF8) } :=
  load_of_read (read_of_document hd hf)

/-- A blueprint may be written behind these published events: there is no document yet, or it is
the one that the blueprint is current with. -/
inductive Accepts (s : Store) (b : Blueprint) : List RecordedEvent → Prop where
  | new (hd : s.document? b.id = none) : Accepts s b []
  | again (found : ByteArray) (r : Record) (hd : s.document? b.id = some found)
      (hr : Record.ofContent found = .ok r) (hv : b.version = some (versionOf found)) :
      Accepts s b r.events

/-- What is left in the store and in memory by an operation that writes a blueprint. -/
inductive Wrote (w : Surroundings) (s : Store) (b : Blueprint) :
    Except Failure Blueprint × Store → Prop where
  | written (published : List RecordedEvent) (s' : Store) (ha : s.Accepts b published)
      (hd : ∀ id, s'.document? id = if id = b.id then
        some (recordOf w b published).document.toUTF8 else s.document? id) :
      Wrote w s b (.ok { b.drained with
        version := some (versionOf (recordOf w b published).document.toUTF8) }, s')
  | refused (f : Failure) (s' : Store) (hd : ∀ id, s'.document? id = s.document? id) :
      Wrote w s b (.error f, s')

theorem wrote_write (hid : isValidId b.id = true) {published : List RecordedEvent}
    (ha : s.Accepts b published) : Wrote w s b (s.write w b published) := by
  obtain ⟨s', h, hd⟩ | ⟨f, s', h, hd⟩ := write_cases w hid published
  · rw [h]
    exact .written published s' ha hd
  · rw [h]
    exact .refused f s' hd

theorem wrote_create (w : Surroundings) (s : Store) (b : Blueprint) :
    Wrote w s b (s.create w b) := by
  unfold create
  split
  case isTrue => exact .refused _ s fun _ => rfl
  case isFalse hid =>
    split
    case isTrue => exact .refused _ s fun _ => rfl
    case isFalse hnew =>
      exact wrote_write (by simpa using hid) (.new (document?_eq_none_of_look hnew))

theorem wrote_update (w : Surroundings) (s : Store) (b : Blueprint) :
    Wrote w s b (s.update w b) := by
  unfold update
  split
  case h_1 f _ => exact .refused f s fun _ => rfl
  case h_2 published hc =>
    obtain ⟨content, r, hd, hr, -, hv, rfl⟩ := current_eq_ok_iff.mp hc
    exact wrote_write (isValidId_of_document? hd) (.again content r hd hr hv)

/-- The blueprint returned is what is stored, at the version at which it is stored. -/
theorem Wrote.exists_read (h : Wrote w s b o) (hb : o.1 = .ok b') :
    ∃ published v, s.Accepts b published ∧
      o.2.read b.id = .ok ((recordOf w b published).remade, v) ∧
      b' = { b.drained with version := some v } := by
  cases h with
  | written published t ha hd =>
    cases hb
    exact ⟨published, _, ha, read_of_document ((hd b.id).trans (if_pos rfl)) rfl, rfl⟩
  | refused f t hd => cases hb

/-- A blueprint is written behind the history of its record. -/
theorem Accepts.eq_of_read {published : List RecordedEvent} (h : s.Accepts b published)
    (hread : s.read b.id = .ok (r, v)) : published = r.events := by
  obtain ⟨content, hd, hr, -, -⟩ := read_eq_ok_iff.mp hread
  cases h with
  | new hnone => cases hnone.symm.trans hd
  | again found r' hd' hr' hv =>
    cases hd.symm.trans hd'
    cases hr.symm.trans hr'
    rfl

theorem Accepts.eq_nil {published : List RecordedEvent} (h : s.Accepts b published)
    (hnone : s.document? b.id = none) : published = [] := by
  cases h with
  | new => rfl
  | again found r hd hr hv => cases hnone.symm.trans hd

end Store

namespace Session

/-- The blueprint that a deed writes, if it succeeds. -/
def commit? (s : Session) (d : Deed) : Option Commit :=
  match d, (s.step d).1 with
  | .create slot, .done | .update slot, .done =>
    (s.slots.find? slot).map fun b => ⟨slot, b⟩
  | _, _ => none

/-- The blueprints that are written by deeds in order. -/
def commits (s : Session) : List Deed → List Commit
  | [] => []
  | d :: rest => (s.commit? d).toList ++ (s.step d).2.commits rest

/-- What a deed can do to slots and documents, and what it commits. -/
inductive Moved (s : Session) : Deed → Option Commit → Session → Prop where
  | held {s' : Session} (slot : String) (b : Blueprint) (hslots : s'.slots = s.slots.put slot b)
      (hdocs : ∀ id, s'.store.document? id = s.store.document? id) :
      Moved s (.hold slot b) none s'
  | performed {s' : Session} (slot : String) (o : Operation) (b : Blueprint)
      (hb : s.slots.find? slot = some b)
      (hslots : s'.slots = s.slots.put slot (b.perform (s.around s.next).now o).blueprint)
      (hdocs : ∀ id, s'.store.document? id = s.store.document? id) :
      Moved s (.perform slot o) none s'
  | loaded {s' : Session} (slot id : String) (content : ByteArray) (r : Record)
      (hd : s.store.document? id = some content) (hr : Record.ofContent content = .ok r)
      (hslots : s'.slots
        = s.slots.put slot { r.toBlueprint with version := some (versionOf content) })
      (hdocs : ∀ id, s'.store.document? id = s.store.document? id) :
      Moved s (.load slot id) none s'
  | wrote {s' : Session} {d : Deed} (slot : String) (b : Blueprint)
      (published : List RecordedEvent) (content : ByteArray)
      (hcontent : content = (Store.recordOf (s.around s.next) b published).document.toUTF8)
      (hd : d = .create slot ∨ d = .update slot) (hb : s.slots.find? slot = some b)
      (ha : s.store.Accepts b published)
      (hslots : s'.slots
        = s.slots.put slot { b.drained with version := some (versionOf content) })
      (hdocs : ∀ id, s'.store.document? id
        = if id = b.id then some content else s.store.document? id) :
      Moved s d (some ⟨slot, b⟩) s'
  | stayed {s' : Session} {d : Deed} (hslots : s'.slots = s.slots)
      (hidle : ∀ slot o, d = .perform slot o → s.slots.find? slot = none)
      (hdocs : ∀ id, s'.store.document? id = s.store.document? id) : Moved s d none s'

variable {s : Session} {slot : String}

theorem commit?_eq_none {d : Deed} (h : (s.step d).1 ≠ .done) : s.commit? d = none := by
  unfold commit?
  split <;> first | rfl | contradiction

theorem moved_of_wrote {b : Blueprint} {d : Deed} (hb : s.slots.find? slot = some b)
    (hd : d = .create slot ∨ d = .update slot) {o : Except Failure Blueprint × Store}
    (hact : s.act (s.around s.next) d = s.settle slot o)
    (ho : Store.Wrote (s.around s.next) s.store b o) : s.Moved d (s.commit? d) (s.step d).2 := by
  cases ho with
  | written published s' ha hdocs =>
    have hcommit : s.commit? d = some ⟨slot, b⟩ := by
      obtain rfl | rfl := hd <;> simp [commit?, step, hact, settle, hb]
    rw [hcommit]
    refine .wrote slot b published _ rfl hd hb ha ?_ ?_
    · simp [step, hact, settle, hold]
    · simpa [step, hact, settle, hold] using hdocs
  | refused f s' hdocs =>
    rw [commit?_eq_none (by simp [step, hact, settle])]
    refine .stayed ?_ ?_ ?_
    · simp [step, hact, settle]
    · obtain rfl | rfl := hd <;> simp
    · simpa [step, hact, settle] using hdocs

theorem moved_of_idle {d : Deed} {r : DeedResult} (hact : s.act (s.around s.next) d = (r, s))
    (hr : r ≠ .done) (hidle : ∀ slot o, d = .perform slot o → s.slots.find? slot = none) :
    s.Moved d (s.commit? d) (s.step d).2 := by
  have hstep : s.step d = (r, { s with next := s.next + 1 }) := by simp only [step, hact]
  rw [commit?_eq_none (by rwa [hstep]), hstep]
  exact .stayed rfl hidle fun _ => rfl

/-- A deed does nothing else. -/
theorem moved_step (s : Session) {d : Deed} (hd : d.IsOwn) :
    s.Moved d (s.commit? d) (s.step d).2 := by
  cases d with
  | hold slot b => exact .held slot b rfl fun _ => rfl
  | create slot =>
    cases hb : s.slots.find? slot with
    | none => exact moved_of_idle (r := .impossible) (by simp only [act, hb]) (by simp) (by simp)
    | some b =>
      exact moved_of_wrote hb (.inl rfl) (by simp only [act, hb])
        (Store.wrote_create (s.around s.next) s.store b)
  | load slot id =>
    cases hload : s.store.load id with
    | error f =>
      have hact : s.act (s.around s.next) (.load slot id) = (.failed f, s) := by
        simp only [act, hload, settle]
      exact moved_of_idle hact (by simp) (by simp)
    | ok b =>
      obtain ⟨content, r, hd, hr, -, rfl⟩ := Store.load_eq_ok_iff.mp hload
      have hstep : (s.step (.load slot id)).2 = { s.hold slot
          { r.toBlueprint with version := some (versionOf content) } with next := s.next + 1 } := by
        simp only [step, act, hload, settle, hold]
      rw [hstep]
      exact .loaded slot id content r hd hr rfl fun _ => rfl
  | update slot =>
    cases hb : s.slots.find? slot with
    | none => exact moved_of_idle (r := .impossible) (by simp only [act, hb]) (by simp) (by simp)
    | some b =>
      exact moved_of_wrote hb (.inr rfl) (by simp only [act, hb])
        (Store.wrote_update (s.around s.next) s.store b)
  | perform slot o =>
    cases hb : s.slots.find? slot with
    | none =>
      exact moved_of_idle (r := .impossible) (by simp only [act, hb]) (by simp) (by simp [hb])
    | some b =>
      have hstep : (s.step (.perform slot o)).2 = { s.hold slot
          (b.perform (s.around s.next).now o).blueprint with next := s.next + 1 } := by
        simp only [step, act, hb]
      rw [hstep]
      exact .performed slot o b hb rfl fun _ => rfl
  | adopt slot d => exact hd.elim
  | deposit name item => exact hd.elim
  | remove name => exact hd.elim

/-- What has been committed is read as it was. -/
theorem read_of_commit {d : Deed} {c : Commit} (hown : d.IsOwn) (h : s.commit? d = some c) :
    ∃ r v, (s.step d).2.store.read c.blueprint.id = .ok (r, v) ∧ r.id = c.blueprint.id ∧
      r.conditions = c.blueprint.conditions ∧ r.diff = c.blueprint.diff.remade := by
  have hm := s.moved_step hown
  rw [h] at hm
  cases hm with
  | wrote slot b published content hcontent hd hb ha hslots hdocs =>
    have hread := Record.ofContent_document (Store.recordOf (s.around s.next) b published)
    rw [← hcontent] at hread
    exact ⟨_, _, Store.read_eq_ok_iff.mpr
      ⟨content, by rw [hdocs, if_pos rfl], hread, rfl, rfl⟩, rfl, rfl, rfl⟩

/-- What has been committed is loaded as it was, but for the events, which are published. -/
theorem load_of_commit {d : Deed} {c : Commit} (hown : d.IsOwn) (h : s.commit? d = some c) :
    ∃ b, (s.step d).2.store.load c.blueprint.id = .ok b ∧ b.id = c.blueprint.id ∧
      b.conditions = c.blueprint.conditions ∧ b.pending = [] := by
  obtain ⟨r, v, hread, hid, hconditions, -⟩ := read_of_commit hown h
  exact ⟨{ r.toBlueprint with version := some v }, Store.load_of_read hread, hid, hconditions, rfl⟩

/-- Documents change by commits only. -/
theorem document?_of_commit?_eq_none {d : Deed} (hown : d.IsOwn) (h : s.commit? d = none)
    (id : String) : (s.step d).2.store.document? id = s.store.document? id := by
  have hm := s.moved_step hown
  rw [h] at hm
  cases hm with
  | held _ _ _ hdocs | performed _ _ _ _ _ hdocs | loaded _ _ _ _ _ _ _ hdocs
  | stayed _ _ hdocs => exact hdocs id

/-! ## Runs -/

theorem run_append (first second : List Deed) :
    (s.run (first ++ second)).2 = ((s.run first).2.run second).2 := by
  induction first generalizing s with
  | nil => rfl
  | cons d rest ih => exact ih

theorem commits_append (first second : List Deed) :
    s.commits (first ++ second) = s.commits first ++ (s.run first).2.commits second := by
  induction first generalizing s with
  | nil => rfl
  | cons d rest ih =>
    simp only [List.cons_append, commits, ih, List.append_assoc]
    rfl

/-- Documents change by commits only, also over many deeds. -/
theorem document?_of_commits_eq_nil {deeds : List Deed} (hown : ∀ d ∈ deeds, d.IsOwn)
    (h : s.commits deeds = []) (id : String) :
    (s.run deeds).2.store.document? id = s.store.document? id := by
  induction deeds generalizing s with
  | nil => rfl
  | cons d rest ih =>
    obtain ⟨hd, hrest⟩ := List.forall_mem_cons.mp hown
    rw [commits, List.append_eq_nil_iff] at h
    obtain ⟨hfirst, hlater⟩ := h
    have hnone : s.commit? d = none := by simpa using hfirst
    exact (ih hrest hlater).trans (document?_of_commit?_eq_none hd hnone id)

/-- What every move of a run preserves, together with what has been committed up to then, holds at
its end if it holds somewhere on the way. -/
theorem run_induction {P : Session → List Commit → Prop} (before : List Deed)
    {after : List Deed} (hown : ∀ d ∈ after, d.IsOwn)
    (hstart : P (s.run before).2 (s.commits before))
    (hmove : ∀ early d, early ++ [d] <+: before ++ after → P (s.run early).2 (s.commits early) →
      (s.run early).2.Moved d ((s.run early).2.commit? d) (s.run (early ++ [d])).2 →
      P (s.run (early ++ [d])).2 (s.commits early ++ ((s.run early).2.commit? d).toList)) :
    P (s.run (before ++ after)).2 (s.commits (before ++ after)) := by
  induction after generalizing before with
  | nil => simpa using hstart
  | cons d rest ih =>
    obtain ⟨hd, hrest⟩ := List.forall_mem_cons.mp hown
    have hsplit : before ++ d :: rest = (before ++ [d]) ++ rest := by simp
    have hrun : (s.run (before ++ [d])).2 = ((s.run before).2.step d).2 := run_append before [d]
    have hcommits : s.commits (before ++ [d])
        = s.commits before ++ ((s.run before).2.commit? d).toList := by
      rw [commits_append]
      simp [commits]
    have hmoved := hmove before d (hsplit ▸ List.prefix_append _ _) hstart
      (hrun ▸ (s.run before).2.moved_step hd)
    rw [hsplit] at hmove ⊢
    exact ih (before ++ [d]) hrest (hcommits ▸ hmoved) hmove

/-! ## Nothing in the way -/

/-- A session on an empty directory, in which no step fails. -/
def smooth : Session :=
  ⟨⟨"state", .directory .empty⟩, .empty, fun _ => .smooth default fun _ => default, 0⟩

/-- A blueprint that was committed is loaded into another slot and changed there. -/
theorem find?_reloaded {s : Session} {first : List Deed} {slot id : String} {b : Blueprint}
    (h : (s.run first).2.commit? (.create slot) = some ⟨slot, b⟩) (hid : b.id = id)
    (other : String) (o : Operation) :
    ∃ (b' : Blueprint) (now : Stamp),
      (s.run (first ++ [.create slot, .load other id, .perform other o])).2.slots.find? other
        = some (b'.perform now o).blueprint ∧ b'.conditions = b.conditions ∧ b'.pending = [] := by
  obtain ⟨b', hload, -, hconditions, hpending⟩ := load_of_commit (d := .create slot) trivial h
  rw [run_append]
  simp only [run, hid] at hload ⊢
  generalize ((s.run first).2.step (.create slot)).2 = t at hload
  refine ⟨b', (t.around (t.next + 1)).now, ?_, hconditions, hpending⟩
  simp only [step, act, hload, settle, hold, Keyed.find?_put, if_true]

end Session
end BlueprintControl
