import BlueprintControl.Proofs.Reconcile.Rejection

/-!
# What a pass has recorded is published

A pass records events in memory, move by move, and whenever it stores its blueprint it publishes what
it has recorded since the last time. What is published goes to the end of the history. So a pass
that ends with storing its blueprint leaves a document that agrees with the blueprint, and whose
history has gone on with every event of the pass.

## Main definitions

* `Chronicle`: moves with their calls and with the events that they record.
* `Collaborators.Records`: the events that a pass records.

## Main statements

* `Chronicle.conserved`: what is recorded is published, or is still pending.
* `Store.Replays.exists_read`: what is published goes to the end of the history.
* `Collaborators.persisted_runPass`: what a pass leaves in the store.
* `Collaborators.lost_by_unknown_health`: the exception.
-/
namespace BlueprintControl

/-! ## Recording -/

section Chronicle

variable {σ : Type} {c : Collaborators σ} {u v : Underway σ} {calls : List Call} {es : List Event}

/-- Moves one after another, with all their calls and with all events that they record, whatever
becomes of these later on. -/
inductive Chronicle (c : Collaborators σ) :
    Underway σ → List Call → List Event → Underway σ → Prop where
  | nil (u : Underway σ) : Chronicle c u [] [] u
  | performed {b : Blueprint} {s : σ} {v : Underway σ} {calls : List Call} {es : List Event}
      (now : Stamp) (o : Operation) (ho : o ≠ .drain)
      (h : Chronicle c ⟨(b.perform now o).blueprint, s⟩ calls es v) :
      Chronicle c ⟨b, s⟩ calls (b.appended now o ++ es) v
  | ticked {b : Blueprint} {s : σ} {v : Underway σ} {calls : List Call} {es : List Event}
      (h : Chronicle c ⟨b, (c.clock s).2⟩ calls es v) : Chronicle c ⟨b, s⟩ calls es v
  | called {u v w : Underway σ} {call : Call} {calls : List Call} {es : List Event}
      (h : Move c u (some call) v) (h' : Chronicle c v calls es w) :
      Chronicle c u (call :: calls) es w

theorem Moves.exists_chronicle (h : Moves c u calls v) : ∃ es, Chronicle c u calls es v := by
  induction h with
  | refl u => exact ⟨[], .nil u⟩
  | @step _ _ _ call _ h _ ih =>
    obtain ⟨es, hes⟩ := ih
    cases call with
    | some call => exact ⟨es, .called h hes⟩
    | none =>
      cases h with
      | performed b s now o ho => exact ⟨_, .performed now o ho hes⟩
      | ticked b s => exact ⟨es, .ticked hes⟩

/-- What is recorded is published, or is still pending, provided that nothing is pending any more
once a blueprint has been stored. -/
theorem Chronicle.conserved (hdrains : ∀ b b' s s',
      (c.repository.update b).run s = (.ok b', s') → b'.pending = [])
    (h : Chronicle c u calls es v) :
    calls.flatMap Call.published ++ v.blueprint.pending = u.blueprint.pending ++ es := by
  induction h with
  | nil u => exact (List.append_nil _).symm
  | @performed b _ _ _ _ now o ho _ ih =>
    rw [ih, b.pending_perform ho, List.append_assoc]
  | ticked h ih => exact ih
  | called h h' ih =>
    rw [List.flatMap_cons, List.append_assoc, ih]
    cases h with
    | stored hupdate =>
      rw [hdrains _ _ _ _ hupdate]
      rfl
    | _ => rfl

end Chronicle

/-! ## Publishing -/

/-- Only updates publish something. -/
theorem Call.published_eq_nil {call : Call} (h : call.isStorage = false) : call.published = [] := by
  cases call with
  | update b answer => cases h
  | _ => rfl

/-- Cutting a history before more is appended cuts off nothing else. -/
theorem Record.keepLatest_append (earlier new : List RecordedEvent) :
    keepLatest (keepLatest earlier ++ new) = keepLatest (earlier ++ new) :=
  latest_latest_append earlier new

namespace Store

variable {s s' : Store} {id : String} {u : Blueprint} {w : Surroundings} {r : Record}
  {v : ResourceVersion} {f : Failure} {calls : List Call}

theorem read_of_update_error (hread : s.read id = .ok (r, v))
    (h : s.update w u = (.error f, s')) : s'.read id = .ok (r, v) := by
  obtain ⟨content, hd, hrest⟩ := read_eq_ok_iff.mp hread
  exact read_eq_ok_iff.mpr ⟨content, (document?_of_update_error h id).trans hd, hrest⟩

/-- What calls publish goes to the end of the history of the only document. -/
theorem Replays.exists_read (h : s.Replays calls s')
    (hsole : ∀ other, (s.document? other).isSome → other = id) (hread : s.read id = .ok (r, v)) :
    ∃ r' v' new, s'.read id = .ok (r', v') ∧
      new.map RecordedEvent.told = (calls.flatMap Call.published).map Event.told ∧
      Record.keepLatest r'.events = Record.keepLatest (r.events ++ new) := by
  induction h generalizing r v with
  | nil s => exact ⟨r, v, [], hread, rfl, by rw [List.append_nil]⟩
  | @update s _ calls w u h ih =>
    have hsole' : ∀ other, ((s.update w u).2.document? other).isSome → other = id := by
      intro other hother
      rw [isSome_document?_update] at hother
      exact hsole other hother
    rcases hupdate : s.update w u with ⟨answer, t⟩
    rw [hupdate] at ih hsole'
    cases answer with
    | error f => exact ih hsole' (read_of_update_error hread hupdate)
    | ok b' =>
      obtain ⟨found, hfound, -⟩ := isCurrent_of_update (congrArg Prod.fst hupdate)
      have hu : u.id = id := hsole _ (Option.isSome_iff_exists.mpr ⟨found, hfound⟩)
      obtain ⟨v₁, hwritten⟩ := read_updated (hu.symm ▸ hread) hupdate
      obtain ⟨r', v', new, hread', htold, hevents⟩ := ih hsole' (hu ▸ hwritten)
      refine ⟨r', v', announced w u ++ new, hread', ?_, ?_⟩
      · rw [List.flatMap_cons, List.map_append, List.map_append, htold, announced,
          Record.map_told_ofEvent]
        rfl
      · rw [hevents, ← List.append_assoc]
        exact Record.keepLatest_append _ _
  | other hcall h ih =>
    obtain ⟨r', v', new, hread', htold, hevents⟩ := ih hsole hread
    refine ⟨r', v', new, hread', ?_, hevents⟩
    rw [List.flatMap_cons, Call.published_eq_nil hcall, List.nil_append, htold]

end Store

/-! ## The whole pass -/

namespace Collaborators

section Records

variable {σ : Type} {c : Collaborators σ} {policy : ActionPolicy} {id : String} {s : σ}
  {b b' : Blueprint} {more : List Call} {es : List Event}

/-- The events that a pass records from loading its blueprint until it ends. -/
def Records (c : Collaborators σ) (policy : ActionPolicy) (id : String) (s : σ)
    (es : List Event) : Prop :=
  ∃ b b' ids s₁ more,
    (c.traced.loadSingle id).run ⟨s, []⟩ = (.ok b, ⟨s₁, [.list (.ok ids), .load id (.ok b)]⟩) ∧
    ((c.traced.runPass policy id).run ⟨s, []⟩).2.calls
      = .list (.ok ids) :: .load id (.ok b) :: more ∧
    c.lastBlueprint? policy id s = some b' ∧
    Chronicle c ⟨b, s₁⟩ more es ⟨b', ((c.runPass policy id).run s).2⟩

theorem Course.exists_records (h : c.Course policy id s b b' more) :
    ∃ es, c.Records policy id s es := by
  obtain ⟨ids, s₀, s₁, hlist, hone, hload, hcalls, hmoves⟩ := h.loads
  obtain ⟨es, hes⟩ := hmoves.exists_chronicle
  exact ⟨es, b, b', ids, s₁, more, traced_loadSingle hlist hone hload, hcalls, h.last, hes⟩

/-- What a pass records is published, or is still pending at its end. -/
theorem Course.conserved (h : c.Course policy id s b b' more) (hdrains : ∀ b b' s s',
      (c.repository.update b).run s = (.ok b', s') → b'.pending = []) (hb : b.pending = [])
    (hes : c.Records policy id s es) :
    es = ((c.traced.runPass policy id).run ⟨s, []⟩).2.calls.flatMap Call.published
      ++ b'.pending := by
  obtain ⟨b₀, b₁, ids₀, s₁, more₀, -, hcalls₀, hlast, hchronicle⟩ := hes
  obtain ⟨ids, -, -, -, -, -, hcalls, -⟩ := h.loads
  obtain rfl : b₁ = b' := Option.some.inj (hlast.symm.trans h.last)
  obtain ⟨-, rfl, -⟩ : ids₀ = ids ∧ b₀ = b ∧ more₀ = more := by
    simpa using hcalls₀.symm.trans hcalls
  have hconserved := hchronicle.conserved hdrains
  rw [hb, List.nil_append] at hconserved
  rw [hcalls₀, ← hconserved]
  rfl

end Records

variable {τ : Type} {view : τ → Stored} {put : Stored → τ → τ} {c : Collaborators τ}
  {policy : ActionPolicy} {id : String} {w : τ} {b b' : Blueprint} {more : List Call}

section Stored

variable (hview : ∀ s w, view (put s w) = s)
  (hc : c.repository = Stored.repository.zoom view put)
include hview hc

/-- Once a blueprint has been stored, nothing is pending any more. -/
theorem pending_of_update {w' : τ} (h : (c.repository.update b).run w = (.ok b', w')) :
    b'.pending = [] := by
  obtain ⟨published, hholds⟩ := Store.holds_of_update (Stored.update_zoom hview hc h).1
  exact hholds.pending

/-- A pass starts with nothing pending. -/
theorem Course.pending_eq_nil (h : c.Course policy id w b b' more) : b.pending = [] := by
  obtain ⟨ids, w₀, w₁, -, -, hload, -⟩ := h.loads
  obtain ⟨content, r, -, -, -, rfl⟩ :=
    Store.load_eq_ok_iff.mp (Stored.load_zoom hview hc hload).1
  rfl

/-- If nothing is pending at the end, a pass has recorded just what it has published. -/
theorem Course.records_iff (h : c.Course policy id w b b' more) (hb' : b'.pending = [])
    {es : List Event} : c.Records policy id w es ↔
      es = ((c.traced.runPass policy id).run ⟨w, []⟩).2.calls.flatMap Call.published := by
  have hpublished : ∀ es, c.Records policy id w es →
      es = ((c.traced.runPass policy id).run ⟨w, []⟩).2.calls.flatMap Call.published := by
    intro es hes
    have hconserved := h.conserved (fun _ _ _ _ => pending_of_update hview hc)
      (h.pending_eq_nil hview hc) hes
    rwa [hb', List.append_nil] at hconserved
  constructor
  · exact hpublished es
  · rintro rfl
    obtain ⟨es, hes⟩ := h.exists_records
    rwa [← hpublished es hes]

/-- What a pass publishes goes to the end of the history. -/
theorem Course.exists_read (hleaves : c.Leaves fun w => (view w).store)
    (h : c.Course policy id w b b' more) :
    ∃ r v r' v' new, (view w).store.read id = .ok (r, v) ∧
      (view ((c.runPass policy id).run w).2).store.read id = .ok (r', v') ∧
      new.map RecordedEvent.told = (((c.traced.runPass policy id).run ⟨w, []⟩).2.calls.flatMap
        Call.published).map Event.told ∧
      Record.keepLatest r'.events = Record.keepLatest (r.events ++ new) := by
  obtain ⟨_, -, -, -, -, -, hcalls, -⟩ := h.loads
  obtain ⟨ids, hids, hone, hload, hreplays⟩ := h.replays hview hc hleaves
  obtain ⟨content, r, hd, hr, hformat, -⟩ := Store.load_eq_ok_iff.mp hload
  have hread := Store.read_eq_ok_iff.mpr ⟨content, hd, hr, hformat, rfl⟩
  have hsole : ∀ other, ((view w).store.document? other).isSome → other = id := by
    intro other hother
    obtain ⟨found, hfound⟩ := Option.isSome_iff_exists.mp hother
    exact Store.eq_of_document? hids hone hfound hd
  obtain ⟨r', v', new, hread', htold, hevents⟩ := hreplays.exists_read hsole hread
  refine ⟨r, _, r', v', new, hread, hread', ?_, hevents⟩
  rw [hcalls, htold]
  rfl

end Stored

/-- **Everything a pass did is persisted.** A pass on a store has loaded a blueprint, and nothing it
asks of the store fails. Whatever else its collaborators answer, and however it ends, the stored
document then has the conditions and the state diff of the blueprint that the pass ends with. The
events of the pass are determined, each of them has been handed over once, in order, to an update
that succeeded, and none is left pending. If nobody but the repository writes to the store, they
stand in this order behind the history that was there before, which is cut to its usual length. The
one exception is a failure to tell the health of the ecosystem. -/
theorem persisted_runPass (view : τ → Stored) (put : Stored → τ → τ)
    (hview : ∀ s w, view (put s w) = s) (c : Collaborators τ)
    (hrepository : c.repository = Stored.repository.zoom view put) (policy : ActionPolicy)
    (id : String) (w : τ) (b : Blueprint) (hloaded : ((c.loadSingle id).run w).1 = .ok b)
    (hstorage : ∀ call ∈ ((c.traced.runPass policy id).run ⟨w, []⟩).2.calls,
      call.isStorage = true → call.failure? = none)
    (hhealth : ∀ config f, .checkHealth config (.error f) ∈
      ((c.traced.runPass policy id).run ⟨w, []⟩).2.calls → f.kind = .unhealthy) :
    let calls := ((c.traced.runPass policy id).run ⟨w, []⟩).2.calls
    let after := (view ((c.runPass policy id).run w).2).store
    ∃ b' r es, c.lastBlueprint? policy id w = some b' ∧ after.Holds b' r ∧
      (∀ es', c.Records policy id w es' ↔ es' = es) ∧ calls.flatMap Call.published = es ∧
      (c.Leaves (fun w => (view w).store) → ∃ earlier new,
        (view w).store.history id = .ok earlier ∧
        new.map RecordedEvent.told = es.map Event.told ∧
        r.events = Record.keepLatest (earlier ++ new) ∧ after.history id = .ok r.events) := by
  intro calls after
  have hexcuses : ∀ call ∈ calls, ¬ call.Excuses := by
    intro call hcall hexcuse
    cases hexcuse with
    | storage hs hf => cases hf.symm.trans (hstorage call hcall hs)
    | health hf => exact hf (hhealth _ _ hcall)
  obtain ⟨b', more, hcourse⟩ := exists_course policy hloaded
  obtain ⟨s, around, b₀, hupdate⟩ := hcourse.exists_update hview hrepository hexcuses
  obtain ⟨published, hholds⟩ := Store.holds_of_update hupdate
  refine ⟨b', _, _, hcourse.last, hholds,
    fun es => hcourse.records_iff hview hrepository hholds.pending, rfl, fun hleaves => ?_⟩
  have hread := Store.read_of_document hholds.document rfl
  rw [hcourse.id_eq hview hrepository hleaves hread] at hread
  obtain ⟨r₀, v₀, r', v', new, hearlier, hread', htold, hevents⟩ :=
    hcourse.exists_read hview hrepository hleaves
  cases hread'.symm.trans hread
  have hafter := Store.history_of_read hread
  -- The last update has cut the history, so that it is cut already where it is read again.
  have hbounded := Record.keepLatest_of_le (Record.length_keepLatest_le
    (published ++ Store.announced around b₀))
  exact ⟨r₀.events, new, Store.history_of_read hearlier, htold, hbounded.symm.trans hevents, hafter⟩

/-- A diff that asks for a downgrade is refused. This is stored, and is told behind what has been told
before. -/
theorem persisted_of_downgrade :
    let applied : RecordedEvent := ⟨default, default, "BlueprintApplied", "done"⟩
    let r : Record := ⟨formatVersion, "a", .plain, .empty, .empty, [applied], default⟩
    let d : StateDiff := ⟨[⟨"official/ldap", default, default, [.downgrade]⟩], [], []⟩
    let after := (((agreeing d).runPass .standard "a").run (.holding r)).2.store
    ∃ b r' f e, (agreeing d).lastBlueprint? .standard "a" (.holding r) = some b ∧
      after.Holds b r' ∧
      (agreeing d).Records .standard "a" (.holding r) [.actionsNotAllowed f] ∧
      e.told = (Event.actionsNotAllowed f).told ∧ r'.events = [applied, e] ∧
      after.history "a" = .ok [applied, e] := by
  intro applied r d after
  obtain ⟨f, hdenied⟩ : ∃ f, ActionPolicy.standard.validate d false = .error f := ⟨_, rfl⟩
  obtain ⟨s, id, hs, hid, hsole, hclear, v, hread⟩ : ∃ s id, Stored.holding r = s ∧ "a" = id ∧
      s.store.Sole id ∧ s.Clear ∧ ∃ v, s.store.read id = .ok (r.remade, v) :=
    ⟨_, _, rfl, rfl, Stored.sole_holding rfl rfl, Stored.clear_holding r, _,
      Stored.read_holding rfl⟩
  simp only [after]
  rw [hs, hid]
  obtain ⟨hsmooth, -⟩ := smooth_agreeing d .standard hsole hclear
  have hflawless : ∀ call ∈ (((agreeing d).traced.runPass .standard id).run ⟨s, []⟩).2.calls,
      call.failure? = none := fun call h => (hsmooth call h).flawless
  obtain ⟨-, ids, around, b', hcalls, -⟩ := exists_update_of_refused (fun _ _ => rfl)
    (repository_agreeing d) (leaves_store_agreeing d) hsole.listed hread
    ⟨fun b answer h => hsmooth _ h, fun call h _ => hflawless call h⟩ hdenied
  obtain ⟨b, hload, -⟩ := hsole.exists_load
  obtain ⟨b'', r', es, hlast, hholds, hrecords, hpublished, hhistory⟩ :=
    persisted_runPass (fun s => s) (fun s _ => s) (fun _ _ => rfl) (agreeing d) rfl .standard id s b
      (loadSingle_of_listed (fun _ _ => rfl) (repository_agreeing d) hsole.listed hload)
      (fun call h _ => hflawless call h) (fun config f h => nomatch hflawless _ h)
  obtain rfl : es = [.actionsNotAllowed f.message] := by
    rw [← hpublished, hcalls]
    rfl
  obtain ⟨earlier, new, hearlier, htold, hevents, hafter⟩ := hhistory (leaves_store_agreeing d)
  obtain rfl : earlier = [applied] :=
    Except.ok.inj (hearlier.symm.trans (Store.history_of_read hread))
  obtain ⟨e, rfl, he⟩ := List.map_eq_singleton_iff.mp htold
  rw [hevents] at hafter
  exact ⟨b'', r', f.message, e, hlast, hholds, (hrecords _).mpr rfl, he, hevents, hafter⟩

/-- If the health of the ecosystem cannot be told, the pass ends with conditions that are not stored.
The events that it has recorded are not published, and its history is as it was, although nothing
it asks of the store fails. -/
theorem lost_by_unknown_health :
    let r := Record.ofBlueprint (.fresh "a" .plain) default
    let c : Collaborators Stored := { agreeing .empty with
      executor := ⟨fun _ => Task.fail (.internal "down"), fun _ => return (), fun _ => return (),
        fun _ => return ()⟩ }
    let calls := ((c.traced.runPass .standard "a").run ⟨.holding r, []⟩).2.calls
    let after := ((c.runPass .standard "a").run (.holding r)).2.store
    (∀ call ∈ calls, call.isStorage = true → call.failure? = none) ∧
      ∃ b b' es, c.lastBlueprint? .standard "a" (.holding r) = some b ∧ b.pending ≠ [] ∧
        after.load "a" = .ok b' ∧ b'.conditions ≠ b.conditions ∧
        c.Records .standard "a" (.holding r) es ∧
        es.map Event.name = ["StateDiffDoguDetermined", "StateDiffComponentDetermined"] ∧
        calls.flatMap Call.published = [] ∧ after.history "a" = .ok [] := by
  intro r c calls after
  obtain ⟨s, hs, hsole, v, hread⟩ : ∃ s, Stored.holding r = s ∧ s.store.Sole "a" ∧
      ∃ v, s.store.read "a" = .ok (r.remade, v) :=
    ⟨_, rfl, Stored.sole_holding rfl rfl, _, Stored.read_holding rfl⟩
  simp only [calls, after]
  rw [hs]
  let b : Blueprint := { Blueprint.fresh "a" .plain with version := some v }
  have hload : s.store.load "a" = .ok b := Store.load_of_read hread
  obtain ⟨ids, hids, hone⟩ := hsole.listed
  have htraced : (c.traced.loadSingle "a").run ⟨s, []⟩
      = (.ok b, ⟨s, [.list (.ok ids), .load "a" (.ok b)]⟩) :=
    traced_loadSingle (congrArg (·, s) hids) hone (congrArg (·, s) hload)
  have hplain := loadSingle_of_traced htraced
  have hstore : ((c.runPass .standard "a").run s).2.store = s.store := by
    rw [runPass, Task.run_bind_ok hplain]
    rfl
  obtain ⟨b', more, hcourse⟩ := exists_course .standard (congrArg Prod.fst hplain)
  obtain ⟨es, hes⟩ := hcourse.exists_records
  have hpublished : ((c.traced.runPass .standard "a").run ⟨s, []⟩).2.calls.flatMap Call.published
      = [] := by
    rw [runPass, Task.run_bind_ok htraced]
    rfl
  obtain rfl : b' = ((Step.proceed c .standard).run ⟨b, s⟩).2.blueprint :=
    Option.some.inj (hcourse.last.symm.trans (lastBlueprint?_of_load hplain .standard))
  have hrepository : c.repository = Stored.repository.zoom (fun s => s) fun s _ => s := rfl
  have hpending := hcourse.conserved
    (fun _ _ _ _ => pending_of_update (fun _ _ => rfl) hrepository) rfl hes
  rw [hpublished, List.nil_append] at hpending
  refine ⟨fun call hcall hs => ?_, _, b, es, hcourse.last, ?_, hstore ▸ hload, ?_, hes, ?_,
    hpublished, hstore ▸ Store.history_of_read hread⟩
  · have hcalls : ((c.traced.runPass .standard "a").run ⟨s, []⟩).2.calls.all
        (fun call => !call.isStorage || call.failure?.isNone) = true := by
      rw [runPass, Task.run_bind_ok htraced]
      rfl
    simpa [hs] using List.all_eq_true.mp hcalls call hcall
  · exact List.ne_nil_of_length_eq_add_one (n := 1) rfl
  · intro hsame
    have hlength := congrArg (fun cs : Conditions => cs.entries.length) hsame
    change 0 = 2 at hlength
    cases hlength
  · rw [hpending]
    rfl

end Collaborators
end BlueprintControl
