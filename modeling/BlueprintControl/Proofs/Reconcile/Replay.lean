import BlueprintControl.Proofs.Reconcile.Moves
import BlueprintControl.Proofs.Reconcile.Persistence
import BlueprintControl.Proofs.Store.WriteBack

/-!
# What calls do to a store

If only the repository writes to the store, the calls of a pass tell what has become of it: an
update is the update of the store, and no other call touches it. So a pass makes no new documents,
and a pass that hands over nothing but what its document keeps already leaves the document as it
is, but for the time at which it was written.

## Main definitions

* `Collaborators.Leaves`: something that only the repository changes.
* `Store.Replays`: a store before and after some calls.
* `Record.Keeps`: a record is what was stored of a blueprint.
* `Store.Retains`: the document of a record, whenever it was written.

## Main statements

* `Moves.replays`: the calls of a pass tell what has become of the store.
* `Store.Replays.isSome_document?`: no documents are made.
* `Store.Replays.retains`: handing over what is kept already changes nothing else than the time.
-/
namespace BlueprintControl

/-! ## Names of documents -/

namespace Place

theorem exists_file_of_content? {p : Place} {name : String} {content : ByteArray}
    (h : p.content? name = some content) :
    ∃ items, p = .directory items ∧ items.find? name = some (.file content) := by
  cases p with
  | directory items =>
    rw [content?_directory] at h
    refine ⟨items, rfl, ?_⟩
    split at h
    · cases h
    · split at h
      · rename_i hitem
        cases h
        exact hitem
      · cases h
  | _ => cases h

end Place

namespace Store

variable {s s' : Store} {id other : String} {b b' u : Blueprint} {w : Surroundings} {r : Record}

/-- What has a document is listed. -/
theorem mem_ids {ids : List String} {content : ByteArray} (hd : s.document? id = some content)
    (h : s.ids = .ok ids) : id ∈ ids := by
  have hid := toList_ne_nil_of_isValidId (isValidId_of_document? hd)
  obtain ⟨items, hp, hitem⟩ := Place.exists_file_of_content? (content?_of_document? hd)
  obtain rfl : (Place.directory items).ids = ids := by simpa [Store.ids, hp] using h
  exact Place.mem_ids_iff.mpr ⟨hid, Keyed.mem_keys_iff.mpr ⟨_, hitem⟩⟩

/-- If no more than one document is listed, there is no more than one. -/
theorem eq_of_document? {ids : List String} {content content' : ByteArray} (h : s.ids = .ok ids)
    (hone : ids.length ≤ 1) (hd : s.document? id = some content)
    (hd' : s.document? other = some content') : id = other := by
  have hid := mem_ids hd h
  have hother := mem_ids hd' h
  match ids, hone with
  | [_], _ =>
    rw [List.mem_singleton.mp hid, List.mem_singleton.mp hother]

/-! ## Updating -/

/-- An update makes no new documents. -/
theorem isSome_document?_update (w : Surroundings) (s : Store) (u : Blueprint) (id : String) :
    ((s.update w u).2.document? id).isSome = (s.document? id).isSome := by
  have hwrote := wrote_update w s u
  have hcurrent : ∀ b', (s.update w u).1 = .ok b' → s.IsCurrent u := fun _ => isCurrent_of_update
  generalize s.update w u = o at hwrote hcurrent
  cases hwrote with
  | written published s' ha hd =>
    obtain ⟨found, hfound, -⟩ := hcurrent _ rfl
    rw [hd]
    split
    case isTrue hid => simp [hid, hfound]
    case isFalse => rfl
  | refused f s' hd => rw [hd]

end Store

/-! ## What a record keeps of a blueprint -/

/-- A record is what was stored of a blueprint, behind a history that is not too long. -/
structure Record.Keeps (r : Record) (b : Blueprint) : Prop where
  id : r.id = b.id
  config : r.config = b.config
  conditions : r.conditions = b.conditions
  diff : r.diff = b.diff.remade
  bounded : r.events.length ≤ historyLimit

theorem Record.length_keepLatest_le (es : List RecordedEvent) :
    (keepLatest es).length ≤ historyLimit := by
  rw [keepLatest, List.length_drop]
  omega

theorem Record.keepLatest_of_le {es : List RecordedEvent} (h : es.length ≤ historyLimit) :
    keepLatest es = es := by
  rw [keepLatest, Nat.sub_eq_zero_of_le h, List.drop_zero]

/-- Without pending events a record is written as it is, but for the time. -/
theorem Record.Keeps.remade_recordOf {r : Record} {u : Blueprint} (h : r.Keeps u)
    (hp : u.pending = []) (hf : r.format = formatVersion) (w : Surroundings) :
    (Store.recordOf w u r.events).remade = { r with updated := w.now } := by
  obtain ⟨format, id, config, conditions, diff, events, updated⟩ := r
  obtain ⟨rfl, rfl, rfl, rfl, hbounded⟩ := h
  obtain rfl : format = formatVersion := hf
  simp [Store.recordOf, Record.ofBlueprint, Record.appendEvents, Record.remade, hp,
    Record.keepLatest_of_le hbounded]

namespace Store

variable {s s' : Store} {b b' u : Blueprint} {w : Surroundings} {r : Record}

/-- What is read after an update is what was stored. -/
theorem read_of_update (h : s.update w b = (.ok b', s')) :
    ∃ r v, s'.read b'.id = .ok (r, v) ∧ r.Keeps b' := by
  obtain ⟨published, v, -, hread, rfl⟩ := (wrote_update w s b).exists_read (congrArg Prod.fst h)
  rw [h] at hread
  exact ⟨_, v, hread, rfl, rfl, rfl, rfl, Record.length_keepLatest_le _⟩

/-- The document holds a record, whenever it was written. -/
def Retains (s : Store) (r : Record) : Prop :=
  ∃ now v, s.read r.id = .ok ({ r with updated := now }, v)

/-- What is loaded is the record, in some version. -/
theorem Retains.of_load (hs : s.Retains r) (h : s.load r.id = .ok b) :
    ∃ v, b = { r.toBlueprint with version := v } := by
  obtain ⟨now, v, hread⟩ := hs
  obtain ⟨content, hd, hr, -, -⟩ := read_eq_ok_iff.mp hread
  obtain ⟨content', r', hd', hr', -, rfl⟩ := load_eq_ok_iff.mp h
  cases hd.symm.trans hd'
  cases hr.symm.trans hr'
  exact ⟨_, rfl⟩

/-- What is read after an update of a document that could be read before. -/
theorem read_updated {v : ResourceVersion} (hread : s.read u.id = .ok (r, v))
    (h : s.update w u = (.ok b', s')) :
    ∃ v', s'.read u.id = .ok ((recordOf w u r.events).remade, v') := by
  obtain ⟨published, v', haccepts, hwritten, -⟩ :=
    (wrote_update w s u).exists_read (congrArg Prod.fst h)
  rw [h] at hwritten
  obtain rfl := haccepts.eq_of_read hread
  exact ⟨v', hwritten⟩

theorem Retains.update (hs : s.Retains r) (hk : r.Keeps u) (hp : u.pending = [])
    (h : s.update w u = (.ok b', s')) : s'.Retains r := by
  obtain ⟨now, v, hread⟩ := hs
  obtain ⟨-, -, -, hf, -⟩ := read_eq_ok_iff.mp hread
  rw [hk.id] at hread
  obtain ⟨v', hwritten⟩ := read_updated hread h
  rw [hk.remade_recordOf hp hf w, ← hk.id] at hwritten
  exact ⟨w.now, v', hwritten⟩

/-! ## Calls -/

/-- A store before and after some calls, if only updates touch it. -/
inductive Replays : Store → List Call → Store → Prop where
  | nil (s : Store) : Replays s [] s
  | update {s s' : Store} {calls : List Call} (w : Surroundings) (u : Blueprint)
      (h : Replays (s.update w u).2 calls s') :
      Replays s (.update u (s.update w u).1 :: calls) s'
  | other {s s' : Store} {call : Call} {calls : List Call} (hcall : call.isStorage = false)
      (h : Replays s calls s') : Replays s (call :: calls) s'

namespace Replays

variable {t : Store} {calls : List Call}

theorem of_update {answer : Except Failure Blueprint} (h : s.update w u = (answer, t))
    (ht : t.Replays calls s') : s.Replays (.update u answer :: calls) s' := by
  have hreplay : s.Replays (.update u (s.update w u).1 :: calls) s' :=
    .update w u (by rw [h]; exact ht)
  rwa [h] at hreplay

theorem eq_of_nil (h : s.Replays [] s') : s' = s := by
  cases h
  rfl

/-- The first call, and the store that it leaves to the others. -/
theorem of_cons {call : Call} (h : s.Replays (call :: calls) s') :
    (∃ w u, call = .update u (s.update w u).1 ∧ (s.update w u).2.Replays calls s') ∨
      call.isStorage = false ∧ s.Replays calls s' := by
  cases h with
  | update w u h => exact .inl ⟨w, u, rfl, h⟩
  | other hcall h => exact .inr ⟨hcall, h⟩

/-- No documents are made. -/
theorem isSome_document? (h : s.Replays calls s') (id : String) :
    (s'.document? id).isSome = (s.document? id).isSome := by
  induction h with
  | nil s => rfl
  | update w u h ih => rw [ih, isSome_document?_update]
  | other hcall h ih => exact ih

/-- Handing over what is kept already changes nothing but the time of the document. -/
theorem retains (h : s.Replays calls s') (hcalls : ∀ call ∈ calls, call.failure? = none)
    (hkeeps : ∀ u answer, .update u answer ∈ calls → r.Keeps u ∧ u.pending = [])
    (hs : s.Retains r) : s'.Retains r := by
  induction h with
  | nil s => exact hs
  | @update s _ _ w u h ih =>
    obtain ⟨hcall, hcalls⟩ := List.forall_mem_cons.mp hcalls
    obtain ⟨hk, hp⟩ := hkeeps u _ List.mem_cons_self
    rcases hupdate : s.update w u with ⟨answer, t⟩
    rw [hupdate] at hcall ih
    cases answer with
    | ok b' =>
      refine ih hcalls (fun u answer hu => ?_) (hs.update hk hp hupdate)
      exact hkeeps u answer (List.mem_cons_of_mem _ hu)
    | error f => cases hcall
  | other hcall h ih =>
    refine ih (List.forall_mem_cons.mp hcalls).2 (fun u answer hu => ?_) hs
    exact hkeeps u answer (List.mem_cons_of_mem _ hu)

end Replays
end Store

/-! ## Passes on a store -/

/-- Something about the world that a pass changes, if at all, through its repository only. -/
structure Collaborators.Leaves {σ α : Type} (c : Collaborators σ) (f : σ → α) : Prop where
  clock : ∀ s, f (c.clock s).2 = f s
  determine : ∀ b s, f ((c.diffs.determine b).run s).2 = f s
  checkHealth : ∀ g s, f ((c.executor.checkHealth g).run s).2 = f s
  applyComponents : ∀ ds s, f ((c.executor.applyComponents ds).run s).2 = f s
  applyDogus : ∀ ds s, f ((c.executor.applyDogus ds).run s).2 = f s
  applyConfig : ∀ ds s, f ((c.executor.applyConfig ds).run s).2 = f s

section Stored

variable {τ : Type} {view : τ → Stored} {put : Stored → τ → τ} {c : Collaborators τ}
  {u v : Underway τ} {calls : List Call}

theorem Stored.list_zoom (hview : ∀ s w, view (put s w) = s)
    (hc : c.repository = Stored.repository.zoom view put) {w w' : τ}
    {answer : Except Failure (List String)} (h : c.repository.list.run w = (answer, w')) :
    (view w).store.ids = answer ∧ view w' = view w := by
  rw [hc] at h
  cases h
  exact ⟨rfl, hview _ _⟩

theorem Stored.load_zoom (hview : ∀ s w, view (put s w) = s)
    (hc : c.repository = Stored.repository.zoom view put) {id : String} {w w' : τ}
    {answer : Except Failure Blueprint} (h : (c.repository.load id).run w = (answer, w')) :
    (view w).store.load id = answer ∧ view w' = view w := by
  rw [hc] at h
  cases h
  exact ⟨rfl, hview _ _⟩

theorem Stored.update_zoom (hview : ∀ s w, view (put s w) = s)
    (hc : c.repository = Stored.repository.zoom view put) {b : Blueprint} {w w' : τ}
    {answer : Except Failure Blueprint} (h : (c.repository.update b).run w = (answer, w')) :
    (view w).store.update ((view w).around (view w).next) b = (answer, (view w').store) ∧
      (view w').around = (view w).around := by
  rw [hc] at h
  cases h
  rw [hview]
  exact ⟨rfl, rfl⟩

/-- If only the repository writes to the store, the calls of a pass tell what has become of it. -/
theorem Moves.replays (hview : ∀ s w, view (put s w) = s)
    (hc : c.repository = Stored.repository.zoom view put)
    (hleaves : c.Leaves fun w => (view w).store) (h : Moves c u calls v) :
    (view u.world).store.Replays calls (view v.world).store := by
  induction h with
  | refl u => exact .nil _
  | @step u v w call calls h h' ih =>
    cases h with
    | performed b s now o ho => exact ih
    | ticked b s => rwa [hleaves.clock] at ih
    | determined b s =>
      rw [hleaves.determine] at ih
      exact .other rfl ih
    | checkedHealth b s g =>
      rw [hleaves.checkHealth] at ih
      exact .other rfl ih
    | appliedComponents b s ds =>
      rw [hleaves.applyComponents] at ih
      exact .other rfl ih
    | appliedDogus b s ds =>
      rw [hleaves.applyDogus] at ih
      exact .other rfl ih
    | appliedConfig b s ds =>
      rw [hleaves.applyConfig] at ih
      exact .other rfl ih
    | stored hupdate =>
      obtain ⟨hstore, -⟩ := Stored.update_zoom hview hc hupdate
      exact .of_update hstore ih
    | notStored hupdate =>
      obtain ⟨hstore, -⟩ := Stored.update_zoom hview hc hupdate
      exact .of_update hstore ih

end Stored
end BlueprintControl
