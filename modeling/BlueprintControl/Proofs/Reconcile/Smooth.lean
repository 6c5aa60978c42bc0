import BlueprintControl.Proofs.Reconcile.Course
import BlueprintControl.Proofs.Store.FailedWrites

/-!
# Passes without failures

On a store where nothing is in the way, and with a source of diffs and an executor that do what they
are asked, no call of a pass fails: the blueprint is current when it is loaded, and every update
gives back one that is current again. The pass leaves the store as it was in this respect, so that
the next pass finds the same.

## Main definitions

* `Collaborators.Obliging`: the source of diffs and the executor do what they are asked.
* `Stored.Clear`: nothing is in the way of an update.
* `Store.Sole`: one blueprint is stored, under its own identifier.
* `Stored.holding`: a store with one record and nothing in the way.
* `Collaborators.agreeing`: collaborators on a store that never fail.

## Main statements

* `Moves.ready`: no move fails to store, and every move leaves a blueprint that is current.
* `Collaborators.stored_runPass`: the repository does not fail in a pass, whatever else does.
* `Collaborators.smooth_runPass`: no call of a pass fails, and the next pass finds the same.
-/
namespace BlueprintControl

/-! ## Directories -/

namespace Place

variable {p : Place} {s : Surroundings} {id name source target : String} {content : ByteArray}

theorem look_rename_ne_folder (h : p.look name ≠ .folder) :
    (p.rename source target content).look name ≠ .folder := by
  cases p with
  | directory items =>
    simp only [rename, look, Keyed.find?_erase, Keyed.find?_put] at h ⊢
    split
    · simp
    · split
      · simp [Look.ofItem?]
      · split
        · simp [Look.ofItem?]
        · simp_all
  | _ => exact h

/-- Writing a document makes no folders in the directory. -/
theorem look_writeDocument_ne_folder (h : p.look name ≠ .folder) :
    (p.writeDocument s id content).2.look name ≠ .folder := by
  have hfolder : (p.createFolder s).2.look name ≠ .folder := by
    obtain hsame | ⟨-, hempty⟩ := prepared_createFolder s p
    · rwa [hsame]
    · exact hempty ▸ look_empty_ne_folder name
  unfold writeDocument
  split
  case h_1 f q hq =>
    rwa [hq] at hfolder
  case h_2 q hq =>
    rw [hq] at hfolder
    rcases replace_cases s q (temporaryName id) (documentName id) content with
      ⟨hq', -, -⟩ | ⟨why, -, hq' | ⟨part, hq'⟩⟩
    · rw [hq']
      exact look_rename_ne_folder (look_put_ne_folder hfolder)
    · rwa [hq']
    · rw [hq']
      exact look_put_ne_folder hfolder

/-- Replacing a document changes nothing of what is listed. -/
theorem ids_writeDocument {found : ByteArray} (hf : p.content? (documentName id) = some found)
    (h : (p.writeDocument s id content).1 = .ok ()) :
    (p.writeDocument s id content).2.ids = p.ids ∧
      ∃ items, (p.writeDocument s id content).2 = .directory items := by
  obtain ⟨items, rfl, hitem⟩ := exists_file_of_content? hf
  simp only [writeDocument, createFolder] at h ⊢
  rcases replace_cases s (.directory items) (temporaryName id) (documentName id) content with
    ⟨hq, -, -⟩ | ⟨why, hq, -⟩
  · rw [hq]
    have htemporary := stem?_temporaryName id
    have hkept : (items.put (temporaryName id) (.file content)).find? (documentName id)
        = some (.file found) := by
      rw [Keyed.find?_put, if_neg (documentName_ne_temporaryName id id), hitem]
    refine ⟨?_, _, rfl⟩
    simp only [put, rename, ids, Place.items, Keyed.filterMap_keys_erase htemporary,
      Keyed.keys_put_of_find? hkept, Keyed.filterMap_keys_put htemporary]
  · rw [hq] at h
    cases h

end Place

/-! ## Updates -/

/-- Nothing is in the way of an update: no step is going to fail, and no folder stands in the place
of a temporary file. -/
structure Stored.Clear (s : Stored) : Prop where
  faultless : ∀ n step, (s.around n).fault step = none
  not_folder : ∀ id, s.store.place.look (temporaryName id) ≠ .folder

namespace Store

variable {s s' : Store} {w : Surroundings} {b b' u : Blueprint} {id name : String}

theorem look_update_ne_folder (h : s.place.look name ≠ .folder) :
    (s.update w u).2.place.look name ≠ .folder :=
  place_update (P := fun p => p.look name ≠ .folder) h fun _ _ =>
    Place.look_writeDocument_ne_folder h

/-- An update changes nothing of what is listed. -/
theorem ids_update (w : Surroundings) (s : Store) (u : Blueprint) :
    (s.update w u).2.ids = s.ids := by
  rcases hupdate : s.update w u with ⟨answer, t⟩
  cases answer with
  | error f =>
    have hleft := left_update (congrArg Prod.fst hupdate)
    rw [hupdate] at hleft
    exact hleft.ids
  | ok b' =>
    obtain ⟨found, hfound, -⟩ := isCurrent_of_update (congrArg Prod.fst hupdate)
    have hcontent := content?_of_document? hfound
    unfold update at hupdate
    split at hupdate
    case h_1 => cases hupdate
    case h_2 published hc =>
      simp only [write] at hupdate
      split at hupdate
      case h_1 => cases hupdate
      case h_2 p hp =>
        cases hupdate
        obtain ⟨hids, items, hitems⟩ := Place.ids_writeDocument hcontent (congrArg Prod.fst hp)
        rw [hp] at hids hitems
        obtain ⟨items', hp', -⟩ := Place.exists_file_of_content? hcontent
        simp only at hids hitems
        simp only [ids, hitems, hp'] at hids ⊢
        exact congrArg Except.ok hids

/-- What an update gives back is current. -/
theorem isCurrent_of_updated (h : s.update w b = (.ok b', s')) : s'.IsCurrent b' := by
  have hwrote := wrote_update w s b
  rw [h] at hwrote
  cases hwrote with
  | written published s' ha hd =>
    exact ⟨_, (hd b.id).trans (if_pos rfl), ⟨_, Record.ofContent_document _, rfl⟩, rfl⟩

/-- No more than one blueprint is listed, and it is stored under its own identifier. -/
structure Sole (s : Store) (id : String) : Prop where
  listed : ∃ ids, s.ids = .ok ids ∧ ids.length ≤ 1
  stored : ∃ r v, s.read id = .ok (r, v) ∧ r.id = id

theorem Sole.exists_load (h : s.Sole id) :
    ∃ b, s.load id = .ok b ∧ b.id = id ∧ s.IsCurrent b := by
  obtain ⟨r, v, hread, hid⟩ := h.stored
  obtain ⟨content, hd, hr, hf, rfl⟩ := read_eq_ok_iff.mp hread
  rw [← hid] at hd
  exact ⟨_, load_of_read hread, hid, content, hd, ⟨r, hr, hf⟩, rfl⟩

theorem Sole.update (h : s.Sole id) (w : Surroundings) (u : Blueprint) :
    (s.update w u).2.Sole id := by
  refine ⟨ids_update w s u ▸ h.listed, ?_⟩
  obtain ⟨r, v, hread, hid⟩ := h.stored
  obtain ⟨content, hd, hr, hf, -⟩ := read_eq_ok_iff.mp hread
  have hwrote := wrote_update w s u
  generalize s.update w u = o at hwrote
  cases hwrote with
  | refused f s' hdocs =>
    exact ⟨r, _, read_eq_ok_iff.mpr ⟨content, (hdocs id).trans hd, hr, hf, rfl⟩, hid⟩
  | written published s' ha hdocs =>
    by_cases hu : id = u.id
    · exact ⟨_, _, read_of_document ((hdocs id).trans (if_pos hu)) rfl, hu.symm⟩
    · exact ⟨r, _, read_eq_ok_iff.mpr
        ⟨content, (hdocs id).trans ((if_neg hu).trans hd), hr, hf, rfl⟩, hid⟩

theorem Replays.sole {calls : List Call} (h : s.Replays calls s') (hs : s.Sole id) :
    s'.Sole id := by
  induction h with
  | nil s => exact hs
  | update w u h ih => exact ih (hs.update w u)
  | other hcall h ih => exact ih hs

end Store

/-! ## Moves -/

/-- The source of diffs always gives this diff, and the executor does what it is asked. -/
structure Collaborators.Obliging {σ : Type} (c : Collaborators σ) (d : StateDiff) : Prop where
  determine : ∀ b s, ((c.diffs.determine b).run s).1 = .ok d
  checkHealth : ∀ g s, ((c.executor.checkHealth g).run s).1 = .ok ()
  applyComponents : ∀ ds s, ((c.executor.applyComponents ds).run s).1 = .ok ()
  applyDogus : ∀ ds s, ((c.executor.applyDogus ds).run s).1 = .ok ()
  applyConfig : ∀ ds s, ((c.executor.applyConfig ds).run s).1 = .ok ()

/-- A call that has not failed. If it has asked for a diff, this is the one. -/
def Call.IsSmooth (d : StateDiff) : Call → Prop
  | .determine _ answer => answer = .ok d
  | call => call.failure? = none

theorem Call.IsSmooth.flawless {d : StateDiff} {call : Call} (h : call.IsSmooth d) :
    call.failure? = none := by
  cases call with
  | determine b answer =>
    obtain rfl : answer = .ok d := h
    rfl
  | _ => exact h

/-- Obliging collaborators answer smoothly, apart from the repository. -/
theorem Moves.isSmooth {σ : Type} {c : Collaborators σ} {u v : Underway σ} {calls : List Call}
    {d : StateDiff} (hobliging : c.Obliging d) (h : Moves c u calls v) :
    ∀ call ∈ calls, call.isStorage = false → call.IsSmooth d := by
  refine h.forall_mem ?_ ?_ ?_ ?_ ?_ ?_
  · exact fun b s _ => hobliging.determine b s
  · exact fun g s _ => congrArg Call.failure?.failed (hobliging.checkHealth g s)
  · exact fun ds s _ => congrArg Call.failure?.failed (hobliging.applyComponents ds s)
  · exact fun ds s _ => congrArg Call.failure?.failed (hobliging.applyDogus ds s)
  · exact fun ds s _ => congrArg Call.failure?.failed (hobliging.applyConfig ds s)
  · intro b answer hstorage
    cases hstorage

/-- A call of the repository that has not failed is smooth. -/
theorem Call.isSmooth_of_isStorage {d : StateDiff} {call : Call} (h : call.isStorage = true)
    (hf : call.failure? = none) : call.IsSmooth d := by
  cases call with
  | determine b answer => cases h
  | _ => exact hf

/-- The blueprint is current, and nothing is in the way of updating it. -/
structure Underway.Ready {τ : Type} (view : τ → Stored) (u : Underway τ) : Prop where
  current : (view u.world).store.IsCurrent u.blueprint
  clear : (view u.world).Clear

section Stored

variable {τ : Type} {view : τ → Stored} {put : Stored → τ → τ} {c : Collaborators τ}
  {u v : Underway τ} {d : StateDiff} {id : String}

theorem Stored.Clear.congr {s t : Stored} (h : s.Clear) (hstore : t.store = s.store)
    (haround : t.around = s.around) : t.Clear where
  faultless := haround ▸ h.faultless
  not_folder := hstore ▸ h.not_folder

theorem Underway.Ready.world {b : Blueprint} {w w' : τ} (h : Ready view ⟨b, w⟩)
    (hs : (view w').store = (view w).store) (ha : (view w').around = (view w).around) :
    Ready view ⟨b, w'⟩ where
  current := by
    change (view w').store.IsCurrent b
    rw [hs]
    exact h.current
  clear := h.clear.congr hs ha

variable (hview : ∀ s w, view (put s w) = s)
  (hc : c.repository = Stored.repository.zoom view put)
  (hstore : c.Leaves fun w => (view w).store) (haround : c.Leaves fun w => (view w).around)
include hview hc hstore haround

/-- A move does not fail to store where nothing is in its way, and puts nothing in the way of the
next. -/
theorem Move.ready {call : Option Call} (h : Move c u call v) (hu : u.Ready view) :
    (∀ x ∈ call.toList, x.isStorage = true → x.failure? = none) ∧ v.Ready view := by
  cases h with
  | performed b s now o ho =>
    obtain ⟨hid, -, hv⟩ := b.perform_frame now o
    exact ⟨List.forall_mem_nil _, hu.current.congr hid hv, hu.clear⟩
  | ticked b s =>
    exact ⟨List.forall_mem_nil _, hu.world (hstore.clock s) (haround.clock s)⟩
  | determined b s =>
    exact ⟨List.forall_mem_singleton.mpr nofun,
      hu.world (hstore.determine b s) (haround.determine b s)⟩
  | checkedHealth b s g =>
    exact ⟨List.forall_mem_singleton.mpr nofun,
      hu.world (hstore.checkHealth g s) (haround.checkHealth g s)⟩
  | appliedComponents b s ds =>
    exact ⟨List.forall_mem_singleton.mpr nofun,
      hu.world (hstore.applyComponents ds s) (haround.applyComponents ds s)⟩
  | appliedDogus b s ds =>
    exact ⟨List.forall_mem_singleton.mpr nofun,
      hu.world (hstore.applyDogus ds s) (haround.applyDogus ds s)⟩
  | appliedConfig b s ds =>
    exact ⟨List.forall_mem_singleton.mpr nofun,
      hu.world (hstore.applyConfig ds s) (haround.applyConfig ds s)⟩
  | @stored b b' s s' hupdate =>
    obtain ⟨hupdated, ha⟩ := Stored.update_zoom hview hc hupdate
    refine ⟨List.forall_mem_singleton.mpr fun _ => rfl, Store.isCurrent_of_updated hupdated,
      ha ▸ hu.clear.faultless, fun id => ?_⟩
    have hlook := Store.look_update_ne_folder (u := b)
      (w := (view s).around (view s).next) (hu.clear.not_folder id)
    rwa [hupdated] at hlook
  | @notStored b s s' f hupdate =>
    obtain ⟨hrefused, -⟩ := Stored.update_zoom hview hc hupdate
    have hclear : Unhindered ((view s).around (view s).next) (view s).store.place b.id :=
      ⟨hu.clear.faultless _, hu.clear.not_folder _⟩
    obtain ⟨b', t, hupdated⟩ := Store.exists_update hu.current hclear
    cases hrefused.symm.trans hupdated

/-- Where nothing is in the way, no move fails to store. -/
theorem Moves.ready {calls : List Call} (h : Moves c u calls v) (hu : u.Ready view) :
    (∀ x ∈ calls, x.isStorage = true → x.failure? = none) ∧ v.Ready view := by
  induction h with
  | refl u => exact ⟨List.forall_mem_nil _, hu⟩
  | step h h' ih =>
    obtain ⟨hcall, hv⟩ := h.ready hview hc hstore haround hu
    obtain ⟨hcalls, hw⟩ := ih hv
    exact ⟨List.forall_mem_append.mpr ⟨hcall, hcalls⟩, hw⟩

end Stored

/-! ## Passes -/

namespace Collaborators

variable {τ : Type} {view : τ → Stored} {put : Stored → τ → τ} {c : Collaborators τ}

variable {id : String} {w : τ}

/-- Where no more than one blueprint is listed, it is loaded. -/
theorem loadSingle_of_listed (hview : ∀ s w, view (put s w) = s)
    (hc : c.repository = Stored.repository.zoom view put)
    (hlisted : ∃ ids, (view w).store.ids = .ok ids ∧ ids.length ≤ 1) {b : Blueprint}
    (hb : (view w).store.load id = .ok b) : ((c.loadSingle id).run w).1 = .ok b := by
  obtain ⟨ids, hids, hone⟩ := hlisted
  rcases hlist : c.repository.list.run w with ⟨answer, w₀⟩
  obtain ⟨rfl, hw₀⟩ := Stored.list_zoom hview hc hlist
  rcases hload : (c.repository.load id).run w₀ with ⟨answer, w₁⟩
  obtain ⟨rfl, -⟩ := Stored.load_zoom hview hc hload
  rw [hids] at hlist
  rw [hw₀, hb] at hload
  rw [loadSingle, Task.run_bind_ok hlist, if_neg (Nat.not_lt.mpr hone), hload]

/-- On a store with one blueprint, where nothing is in the way of an update, the repository does not
fail in a pass, whatever the source of diffs and the executor answer. The next pass finds such a
store again. -/
theorem stored_runPass (hview : ∀ s w, view (put s w) = s)
    (hc : c.repository = Stored.repository.zoom view put)
    (hstore : c.Leaves fun w => (view w).store) (haround : c.Leaves fun w => (view w).around)
    (policy : ActionPolicy) (hsole : (view w).store.Sole id) (hclear : (view w).Clear) :
    ∃ b b' more, (view w).store.load id = .ok b ∧ c.Course policy id w b b' more ∧
      (∀ call ∈ ((c.traced.runPass policy id).run ⟨w, []⟩).2.calls,
        call.isStorage = true → call.failure? = none) ∧
      (view ((c.runPass policy id).run w).2).store.Sole id ∧
      (view ((c.runPass policy id).run w).2).Clear := by
  obtain ⟨b, hb, -, hcurrent⟩ := hsole.exists_load
  obtain ⟨b', more, hcourse⟩ := exists_course policy (loadSingle_of_listed hview hc hsole.listed hb)
  obtain ⟨-, -, -, -, hreplays⟩ := hcourse.replays hview hc hstore
  obtain ⟨ids, w₀, w₁, hlist, -, hload, hcalls, hmoves⟩ := hcourse.loads
  have hw₁ : view w₁ = view w :=
    (Stored.load_zoom hview hc hload).2.trans (Stored.list_zoom hview hc hlist).2
  have hready : Underway.Ready view ⟨b, w₁⟩ := by
    constructor
    · change (view w₁).store.IsCurrent b
      rwa [hw₁]
    · change (view w₁).Clear
      rwa [hw₁]
  obtain ⟨hstored, hafter⟩ := hmoves.ready hview hc hstore haround hready
  refine ⟨b, b', more, hb, hcourse, ?_, hreplays.sole hsole, hafter.clear⟩
  rw [hcalls]
  exact List.forall_mem_cons.mpr ⟨fun _ => rfl, List.forall_mem_cons.mpr ⟨fun _ => rfl, hstored⟩⟩

/-- **Passes without failures.** On a store with one blueprint, where nothing is in the way of an
update, and with a source of diffs and an executor that do what they are asked, no call of a pass
fails, the diff is determined, and the next pass finds such a store again. -/
theorem smooth_runPass (hview : ∀ s w, view (put s w) = s)
    (hc : c.repository = Stored.repository.zoom view put)
    (hstore : c.Leaves fun w => (view w).store) (haround : c.Leaves fun w => (view w).around)
    {d : StateDiff} (hobliging : c.Obliging d) (policy : ActionPolicy)
    (hsole : (view w).store.Sole id) (hclear : (view w).Clear) :
    (∀ call ∈ ((c.traced.runPass policy id).run ⟨w, []⟩).2.calls, call.IsSmooth d) ∧
      (∃ b, (view w).store.load id = .ok b ∧
        .determine b (.ok d) ∈ ((c.traced.runPass policy id).run ⟨w, []⟩).2.calls) ∧
      (view ((c.runPass policy id).run w).2).store.Sole id ∧
      (view ((c.runPass policy id).run w).2).Clear := by
  obtain ⟨b, b', more, hb, hcourse, hstored, hafter⟩ :=
    stored_runPass hview hc hstore haround policy hsole hclear
  obtain ⟨ids, w₀, w₁, -, -, -, hcalls, hmoves⟩ := hcourse.loads
  have hsmooth : ∀ call ∈ ((c.traced.runPass policy id).run ⟨w, []⟩).2.calls,
      call.IsSmooth d := by
    intro call hcall
    cases hstorage : call.isStorage with
    | true => exact Call.isSmooth_of_isStorage hstorage (hstored call hcall hstorage)
    | false =>
      rw [hcalls, List.mem_cons, List.mem_cons] at hcall
      obtain rfl | rfl | hcall := hcall
      · cases hstorage
      · cases hstorage
      · exact hmoves.isSmooth hobliging call hcall hstorage
  refine ⟨hsmooth, ?_, hafter⟩
  obtain ⟨answer, rest, rfl, -⟩ := hcourse.proceeds.split
  obtain rfl : answer = .ok d := hsmooth _ (hcourse.mem_calls List.mem_cons_self)
  exact ⟨b, hb, hcourse.mem_calls List.mem_cons_self⟩

end Collaborators

/-! ## A store with one record -/

/-- The directory holds the document of one record, and nothing else. -/
def Place.alone (id : String) (r : Record) : Place :=
  .directory (Keyed.empty.put (documentName id) (.file r.document.toUTF8))

theorem Place.look_alone_ne_folder (id : String) (r : Record) (name : String) :
    (alone id r).look name ≠ .folder :=
  look_put_ne_folder (p := .directory .empty) (look_empty_ne_folder name)

namespace Store

variable {path id : String} {r : Record} (hid : isValidId id = true)
include hid

theorem ids_alone : (Store.mk path (.alone id r)).ids = .ok [id] := by
  have hstems : (Place.alone id r).items.keys.filterMap Place.stem? = [id] := by
    change [documentName id].filterMap Place.stem? = _
    simp [Place.stem?_documentName (toList_ne_nil_of_isValidId hid)]
  change Except.ok (List.mergeSort _ _) = _
  rw [hstems, List.mergeSort_singleton]

variable (hfits : ¬ nameLimit < (documentName id).utf8ByteSize)
include hfits

theorem document?_alone :
    (Store.mk path (.alone id r)).document? id = some r.document.toUTF8 := by
  simp [document?, Place.alone, Place.content?_directory, hid, hfits]

theorem read_alone (hf : r.format = formatVersion) :
    (Store.mk path (.alone id r)).read id = .ok (r.remade, versionOf r.document.toUTF8) :=
  read_of_document (document?_alone hid hfits) hf

theorem sole_alone (hr : r.id = id) (hf : r.format = formatVersion) :
    (Store.mk path (.alone id r)).Sole id where
  listed := ⟨[id], ids_alone hid, Nat.le_refl 1⟩
  stored := ⟨r.remade, _, read_alone hid hfits hf, hr⟩

end Store

/-- A store, a source that always gives this diff, and an executor that does nothing. -/
def Collaborators.agreeing (d : StateDiff) : Collaborators Stored :=
  ⟨Stored.repository, ⟨fun _ => return d⟩,
    ⟨fun _ => return (), fun _ => return (), fun _ => return (), fun _ => return ()⟩, Stored.clock⟩

namespace Collaborators

theorem repository_agreeing (d : StateDiff) :
    (agreeing d).repository = Stored.repository.zoom (fun s => s) fun s _ => s := rfl

theorem obliging_agreeing (d : StateDiff) : (agreeing d).Obliging d :=
  ⟨fun _ _ => rfl, fun _ _ => rfl, fun _ _ => rfl, fun _ _ => rfl, fun _ _ => rfl⟩

theorem leaves_store_agreeing (d : StateDiff) : (agreeing d).Leaves Stored.store :=
  ⟨fun _ => rfl, fun _ _ => rfl, fun _ _ => rfl, fun _ _ => rfl, fun _ _ => rfl, fun _ _ => rfl⟩

theorem leaves_around_agreeing (d : StateDiff) : (agreeing d).Leaves Stored.around :=
  ⟨fun _ => rfl, fun _ _ => rfl, fun _ _ => rfl, fun _ _ => rfl, fun _ _ => rfl, fun _ _ => rfl⟩

/-- With such collaborators no call of a pass fails. -/
theorem smooth_agreeing (d : StateDiff) (policy : ActionPolicy) {id : String} {s : Stored}
    (hsole : s.store.Sole id) (hclear : s.Clear) :
    (∀ call ∈ (((agreeing d).traced.runPass policy id).run ⟨s, []⟩).2.calls, call.IsSmooth d) ∧
      (∃ b, s.store.load id = .ok b ∧
        .determine b (.ok d) ∈ (((agreeing d).traced.runPass policy id).run ⟨s, []⟩).2.calls) ∧
      (((agreeing d).runPass policy id).run s).2.store.Sole id ∧
      (((agreeing d).runPass policy id).run s).2.Clear :=
  smooth_runPass (fun _ _ => rfl) (repository_agreeing d) (leaves_store_agreeing d)
    (leaves_around_agreeing d) (obliging_agreeing d) policy hsole hclear

/-- What becomes of a store in a number of passes with such collaborators. -/
def afterPasses (d : StateDiff) (policy : ActionPolicy) (id : String) (s : Stored) : Nat → Stored
  | 0 => s
  | n + 1 => (((agreeing d).runPass policy id).run (afterPasses d policy id s n)).2

/-- No call of any of these passes fails. -/
theorem smooth_afterPasses (d : StateDiff) (policy : ActionPolicy) {id : String} {s : Stored}
    (hsole : s.store.Sole id) (hclear : s.Clear) (n : Nat) :
    (∀ call ∈ (((agreeing d).traced.runPass policy id).run
        ⟨afterPasses d policy id s n, []⟩).2.calls, call.IsSmooth d) ∧
      ∃ b, (afterPasses d policy id s n).store.load id = .ok b ∧ .determine b (.ok d) ∈
        (((agreeing d).traced.runPass policy id).run ⟨afterPasses d policy id s n, []⟩).2.calls := by
  have hready : ∀ n, (afterPasses d policy id s n).store.Sole id ∧
      (afterPasses d policy id s n).Clear := by
    intro n
    induction n with
    | zero => exact ⟨hsole, hclear⟩
    | succ n ih =>
      obtain ⟨-, -, hsole, hclear⟩ := smooth_agreeing d policy ih.1 ih.2
      exact ⟨hsole, hclear⟩
  obtain ⟨hsmooth, hdetermined, -⟩ := smooth_agreeing d policy (hready n).1 (hready n).2
  exact ⟨hsmooth, hdetermined⟩

end Collaborators

/-- A store with one record, in which nothing is going to fail. -/
def Stored.holding (r : Record) : Stored :=
  ⟨⟨"state", .directory (Keyed.empty.put "a.json" (.file r.document.toUTF8))⟩,
    fun _ => .smooth default fun _ => default, 0⟩

namespace Stored

variable {r : Record}

theorem store_holding (r : Record) : (holding r).store = ⟨"state", .alone "a" r⟩ := by
  have hname : documentName "a" = "a.json" := by decide
  rw [Place.alone, hname]
  rfl

theorem read_holding (hf : r.format = formatVersion) : (holding r).store.read "a"
    = .ok (r.remade, versionOf r.document.toUTF8) := by
  rw [store_holding]
  exact Store.read_alone (by decide) (by decide) hf

theorem load_holding (hf : r.format = formatVersion) : (holding r).store.load "a"
    = .ok { r.remade.toBlueprint with version := some (versionOf r.document.toUTF8) } := by
  rw [store_holding]
  exact Store.load_of_document (Store.document?_alone (by decide) (by decide)) hf

theorem sole_holding (hid : r.id = "a") (hf : r.format = formatVersion) :
    (holding r).store.Sole "a" := by
  rw [store_holding]
  exact Store.sole_alone (by decide) (by decide) hid hf

theorem clear_holding (r : Record) : (holding r).Clear where
  faultless _ _ := rfl
  not_folder id := by
    rw [store_holding]
    exact Place.look_alone_ne_folder "a" r (temporaryName id)

end Stored
end BlueprintControl
