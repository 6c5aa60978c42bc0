import BlueprintControl.Proofs.Domain.Undetermined
import BlueprintControl.Proofs.Reconcile.Smooth
import BlueprintControl.Proofs.Store.History

/-!
# Passes whose diff cannot be determined

A pass that cannot determine the diff of its blueprint stores that both axes are unknown, and ends.
If this happens again and again, each pass takes over the message of its own error. The events of
the first one are the only ones, the times stay as the first one has left them, and whatever does
not belong to an axis stays as it was.

## Main definitions

* `Call.asksExecutor`, `Call.published`: calls of the executor, and events that are published.
* `Record.Undetermined`: what such passes leave of a record.
* `Collaborators.RunsUndetermined`: a pass in which the diff cannot be determined.

## Main statements

* `Collaborators.exists_update_of_runsUndetermined`: the calls of such a pass.
* `Collaborators.undetermined_runPass`: what one such pass leaves.
* `Collaborators.told_once`: any number of such passes.
-/
namespace BlueprintControl

/-- The executor is asked. -/
def Call.asksExecutor : Call → Bool
  | .checkHealth _ _ | .applyComponents _ _ | .applyDogus _ _ | .applyConfig _ _ => true
  | _ => false

/-- The events that are published by storing a blueprint. -/
def Call.published : Call → List Event
  | .update b (.ok _) => b.pending
  | _ => []

/-! ## Blueprints -/

namespace Blueprint

variable (b : Blueprint) (e : String) (now now' : Stamp)

theorem conditions_evaluated_error : (b.evaluated (some e) now now').conditions
    = (b.conditions.set .dogusApplied .unknown Reason.cannotDetermine e now).set
        .componentsApplied .unknown Reason.cannotDetermine e now' := by
  simp [evaluated, Axis.conditionType]

/-- An error is told of each axis that has not been unknown before. -/
theorem pending_evaluated_error : (b.evaluated (some e) now now').pending
    = b.pending ++ b.conditions.determined.map fun axis => .diffFailed axis e := by
  have hcomponents : Axis.components.isUndetermined
      (b.evaluate .dogus (some e) now).blueprint.conditions
        = Axis.components.isUndetermined b.conditions :=
    Axis.isUndetermined_congr (find?_evaluate_of_ne (by decide) b (some e) now)
  rw [evaluated, pending_evaluate_error, pending_evaluate_error, hcomponents]
  cases hd : Axis.dogus.isUndetermined b.conditions <;>
    cases hc : Axis.components.isUndetermined b.conditions <;>
    simp [Conditions.determined, hd, hc]

/-- Both axes become unknown. The time of one that has been unknown before stays. -/
theorem exists_since_evaluated_error : ∃ since : Axis → Stamp, ∀ axis : Axis,
    (b.evaluated (some e) now now').conditions.find? axis.conditionType
        = some ⟨axis.conditionType, .unknown, Reason.cannotDetermine, e, since axis⟩ ∧
      ∀ c, b.conditions.find? axis.conditionType = some c →
        axis.isUndetermined b.conditions = true → since axis = c.since := by
  have hsame : ∀ {axis : Axis} {c}, b.conditions.find? axis.conditionType = some c →
      axis.isUndetermined b.conditions = true →
      c.status = .unknown ∧ c.reason = Reason.cannotDetermine := by
    intro axis c hc h
    simpa [Axis.isUndetermined, hc] using h
  obtain ⟨sinceDogus, hdogus, hstaysDogus⟩ := b.conditions.exists_find?_set .dogusApplied
    .unknown Reason.cannotDetermine e now
  obtain ⟨sinceComponents, hcomponents, hstaysComponents⟩ := (b.conditions.set .dogusApplied
    .unknown Reason.cannotDetermine e now).exists_find?_set .componentsApplied .unknown
    Reason.cannotDetermine e now'
  rw [conditions_evaluated_error]
  refine ⟨fun axis => axis.casesOn sinceDogus sinceComponents, fun axis => ?_⟩
  cases axis with
  | dogus =>
    refine ⟨(Conditions.find?_set_of_ne (by decide)).trans hdogus, ?_⟩
    intro c hc h
    exact hstaysDogus c hc (hsame hc h).1 (hsame hc h).2
  | components =>
    refine ⟨hcomponents, ?_⟩
    intro c hc h
    exact hstaysComponents c ((Conditions.find?_set_of_ne (by decide)).trans hc) (hsame hc h).1
      (hsame hc h).2

/-- Other conditions stay as they are. -/
theorem ofType_evaluated_error {t : ConditionType} (h : ∀ axis : Axis, t ≠ axis.conditionType) :
    (b.evaluated (some e) now now').conditions.ofType t = b.conditions.ofType t := by
  rw [conditions_evaluated_error]
  exact (Conditions.ofType_set_of_ne (h .components)).trans
    (Conditions.ofType_set_of_ne (h .dogus))

end Blueprint

/-! ## Records -/

/-- What passes that cannot determine the diff leave of a record: both axes are unknown with the
error as their message, and some events have been published. Everything else stays. -/
structure Record.Undetermined (r r' : Record) (error : String) (since : Axis → Stamp)
    (new : List RecordedEvent) : Prop where
  axes : ∀ axis : Axis, r'.conditions.find? axis.conditionType
    = some ⟨axis.conditionType, .unknown, Reason.cannotDetermine, error, since axis⟩
  others : ∀ t, (∀ axis : Axis, t ≠ axis.conditionType) →
    r'.conditions.ofType t = r.conditions.ofType t
  id : r'.id = r.id
  config : r'.config = r.config
  diff : r'.diff = r.diff
  events : r'.events = keepLatest (r.events ++ new)

namespace Record

variable {r r' r'' : Record} {e e' : String} {since : Axis → Stamp} {new : List RecordedEvent}

theorem keepLatest_keepLatest (es : List RecordedEvent) :
    keepLatest (keepLatest es) = keepLatest es :=
  keepLatest_of_le (length_keepLatest_le es)

theorem Undetermined.determined_eq_nil (h : r.Undetermined r' e since new) :
    r'.conditions.determined = [] :=
  Conditions.determined_eq_nil fun axis => Axis.isUndetermined_of_find? (h.axes axis)

/-- A further error changes the message. -/
theorem Undetermined.again (h : r.Undetermined r' e since new)
    (h' : r'.Undetermined r'' e' since []) : r.Undetermined r'' e' since new where
  axes := h'.axes
  others t ht := (h'.others t ht).trans (h.others t ht)
  id := h'.id.trans h.id
  config := h'.config.trans h.config
  diff := h'.diff.trans h.diff
  events := by rw [h'.events, List.append_nil, h.events, keepLatest_keepLatest]

/-- What is written after an error of the diff. -/
theorem undetermined_recordOf (hdiff : r.diff.remade = r.diff) (v : Option ResourceVersion)
    (e : String) (now now' : Stamp) (w : Surroundings) :
    ∃ since new, r.Undetermined (Store.recordOf w
        (({ r.toBlueprint with version := v } : Blueprint).evaluated (some e) now now')
        r.events).remade e since new ∧
      new.map RecordedEvent.told
        = (r.conditions.determined.map fun axis => Event.diffFailed axis e).map Event.told ∧
      ∀ (axis : Axis) c, r.conditions.find? axis.conditionType = some c →
        axis.isUndetermined r.conditions = true → since axis = c.since := by
  let b : Blueprint := { r.toBlueprint with version := v }
  obtain ⟨hid, hconfig, hsame, -⟩ := b.evaluated_frame (some e) now now'
  obtain ⟨since, hsince⟩ := b.exists_since_evaluated_error e now now'
  have hpending : (b.evaluated (some e) now now').pending
      = r.conditions.determined.map fun axis => .diffFailed axis e :=
    b.pending_evaluated_error e now now'
  refine ⟨since, Store.announced w (b.evaluated (some e) now now'), ?_, ?_, ?_⟩
  · exact {
      axes := fun axis => (hsince axis).1
      others := fun t ht => b.ofType_evaluated_error e now now' ht
      id := hid
      config := hconfig
      diff := (congrArg StateDiff.remade hsame).trans hdiff
      events := rfl }
  · rw [Store.announced, map_told_ofEvent, hpending]
  · exact fun axis => (hsince axis).2

end Record

/-! ## Passes -/

/-- All that is called after loading, if the diff cannot be determined and the repository works. -/
theorem Step.Proceeds.eq_of_undetermined {σ : Type} {c : Collaborators σ} {b b' : Blueprint}
    {policy : ActionPolicy} {f : Failure} {r : Except Failure Outcome} {calls : List Call}
    (h : Proceeds c b policy r calls b')
    (hundetermined : ∀ answer, .determine b answer ∈ calls → answer = .error f)
    (hstored : ∀ call ∈ calls, call.isStorage = true → call.failure? = none) :
    ∃ now now' b'', calls = [.determine b (.error f),
      .update (b.evaluated (some f.message) now now') (.ok b'')] := by
  cases h with
  | stopped h =>
    cases h with
    | unknown g now now' h =>
      obtain rfl : g = f := Except.error.inj (hundetermined _ List.mem_cons_self)
      cases h with
      | stored h => exact ⟨now, now', _, rfl⟩
      | failed _ =>
        have hfailed := hstored _ (List.mem_cons_of_mem _ List.mem_cons_self) rfl
        cases hfailed
  | continued h h' =>
    obtain ⟨d, rfl, rfl⟩ := h.eq_of_ok
    have hknown := hundetermined (.ok d) (by simp)
    cases hknown

namespace Collaborators

/-- In the pass the diff cannot be determined, for this reason, and the repository works. -/
structure RunsUndetermined {σ : Type} (c : Collaborators σ) (policy : ActionPolicy) (id : String)
    (f : Failure) (s : σ) : Prop where
  undetermined : ∀ b answer,
    .determine b answer ∈ ((c.traced.runPass policy id).run ⟨s, []⟩).2.calls → answer = .error f
  stored : ∀ call ∈ ((c.traced.runPass policy id).run ⟨s, []⟩).2.calls,
    call.isStorage = true → call.failure? = none

variable {τ : Type} {view : τ → Stored} {put : Stored → τ → τ} {c : Collaborators τ}
  {policy : ActionPolicy} {id : String} {w : τ} {f : Failure} {r : Record} {v : ResourceVersion}

section Stored

variable (hview : ∀ s w, view (put s w) = s)
  (hc : c.repository = Stored.repository.zoom view put)
  (hleaves : c.Leaves fun w => (view w).store)
include hview hc hleaves

/-- The calls of such a pass. The last one stores what is known of both axes. -/
theorem exists_update_of_runsUndetermined
    (hlisted : ∃ ids, (view w).store.ids = .ok ids ∧ ids.length ≤ 1)
    (hread : (view w).store.read id = .ok (r, v)) (hrun : c.RunsUndetermined policy id f w) :
    ∃ ids around now now' b',
      let b : Blueprint := { r.toBlueprint with version := some v }
      ((c.traced.runPass policy id).run ⟨w, []⟩).2.calls
        = [.list (.ok ids), .load id (.ok b), .determine b (.error f),
          .update (b.evaluated (some f.message) now now') (.ok b')] ∧
      (view w).store.update around (b.evaluated (some f.message) now now')
        = (.ok b', (view ((c.runPass policy id).run w).2).store) := by
  let b : Blueprint := { r.toBlueprint with version := some v }
  have hload : (view w).store.load id = .ok b := Store.load_of_read hread
  obtain ⟨b', more, hcourse⟩ :=
    exists_course policy (loadSingle_of_listed hview hc hlisted hload)
  obtain ⟨-, -, -, -, hreplays⟩ := hcourse.replays hview hc hleaves
  obtain ⟨ids, -, -, -, -, -, hcalls, -⟩ := hcourse.loads
  obtain ⟨now, now', b'', rfl⟩ := hcourse.proceeds.eq_of_undetermined
    (fun answer h => hrun.undetermined b answer (hcourse.mem_calls h))
    fun call h => hrun.stored call (hcourse.mem_calls h)
  obtain ⟨around, u, heq, -⟩ | ⟨-, hreplays⟩ := hreplays.of_cons
  · cases heq
  · obtain ⟨around, u, heq, hreplays⟩ | ⟨hstorage, -⟩ := hreplays.of_cons
    · obtain ⟨rfl, hanswer⟩ : b.evaluated (some f.message) now now' = u ∧
          .ok b'' = ((view w).store.update around u).1 := by simpa using heq
      exact ⟨ids, around, now, now', b'', hcalls, Prod.ext hanswer.symm hreplays.eq_of_nil.symm⟩
    · cases hstorage

/-- What one pass leaves that cannot determine the diff. -/
theorem undetermined_runPass
    (hlisted : ∃ ids, (view w).store.ids = .ok ids ∧ ids.length ≤ 1)
    (hread : (view w).store.read id = .ok (r, v)) (hrun : c.RunsUndetermined policy id f w) :
    (∀ call ∈ ((c.traced.runPass policy id).run ⟨w, []⟩).2.calls, call.asksExecutor = false) ∧
      ((c.traced.runPass policy id).run ⟨w, []⟩).2.calls.flatMap Call.published
        = r.conditions.determined.map (fun axis => Event.diffFailed axis f.message) ∧
      (view ((c.runPass policy id).run w).2).store.ids = (view w).store.ids ∧
      ∃ r' v' since new,
        (view ((c.runPass policy id).run w).2).store.read id = .ok (r', v') ∧
        r.Undetermined r' f.message since new ∧
        new.map RecordedEvent.told = (r.conditions.determined.map fun axis =>
          Event.diffFailed axis f.message).map Event.told ∧
        ∀ (axis : Axis) condition, r.conditions.find? axis.conditionType = some condition →
          axis.isUndetermined r.conditions = true → since axis = condition.since := by
  obtain ⟨ids, around, now, now', b', hcalls, hupdate⟩ :=
    exists_update_of_runsUndetermined hview hc hleaves hlisted hread hrun
  let b : Blueprint := { r.toBlueprint with version := some v }
  obtain ⟨hevaluated, -⟩ := b.evaluated_frame (some f.message) now now'
  have hid : (b.evaluated (some f.message) now now').id = id := by
    obtain ⟨ids, hids, hone⟩ := hlisted
    obtain ⟨found, hfound, -⟩ := Store.isCurrent_of_update (congrArg Prod.fst hupdate)
    obtain ⟨content, hd, -⟩ := Store.read_eq_ok_iff.mp hread
    exact Store.eq_of_document? hids hone hfound hd
  have hdiff : r.diff.remade = r.diff := by
    obtain ⟨content, -, hr, -⟩ := Store.read_eq_ok_iff.mp hread
    exact congrArg Record.diff (Record.remade_of_ofContent hr)
  obtain ⟨v', hwritten⟩ := Store.read_updated (hid.symm ▸ hread) hupdate
  rw [hid] at hwritten
  obtain ⟨since, new, hundetermined, htold, hsince⟩ :=
    Record.undetermined_recordOf hdiff (some v) f.message now now' around
  refine ⟨?_, ?_, ?_, _, v', since, new, hwritten, hundetermined, htold, hsince⟩
  · rw [hcalls]
    simp [Call.asksExecutor]
  · have hpending : (b.evaluated (some f.message) now now').pending
        = r.conditions.determined.map fun axis => Event.diffFailed axis f.message :=
      b.pending_evaluated_error f.message now now'
    rw [hcalls, ← hpending]
    simp [Call.published, b]
  · have hids := Store.ids_update around (view w).store (b.evaluated (some f.message) now now')
    rwa [hupdate] at hids

/-- What further passes leave that cannot determine the diff. -/
theorem undetermined_again {r' : Record} {f' : Failure} {since : Axis → Stamp}
    {new : List RecordedEvent} (hlisted : ∃ ids, (view w).store.ids = .ok ids ∧ ids.length ≤ 1)
    (hr : r.Undetermined r' f'.message since new) (hread : (view w).store.read id = .ok (r', v))
    (hrun : c.RunsUndetermined policy id f w) :
    (∀ call ∈ ((c.traced.runPass policy id).run ⟨w, []⟩).2.calls, call.asksExecutor = false) ∧
      ((c.traced.runPass policy id).run ⟨w, []⟩).2.calls.flatMap Call.published = [] ∧
      (view ((c.runPass policy id).run w).2).store.ids = (view w).store.ids ∧
      ∃ r'' v', (view ((c.runPass policy id).run w).2).store.read id = .ok (r'', v') ∧
        r.Undetermined r'' f.message since new := by
  obtain ⟨hquiet, hpublished, hids, r'', v', since', new', hread', hr', htold, hsince⟩ :=
    undetermined_runPass hview hc hleaves hlisted hread hrun
  rw [hr.determined_eq_nil] at hpublished htold
  obtain rfl : new' = [] := List.map_eq_nil_iff.mp htold
  obtain rfl : since' = since := by
    funext axis
    exact hsince axis _ (hr.axes axis) (Axis.isUndetermined_of_find? (hr.axes axis))
  exact ⟨hquiet, hpublished, hids, r'', v', hread', hr.again hr'⟩

end Stored

/-- **A diff that cannot be determined is told once.** Passes for the only blueprint are repeated.
Of all that a pass asks only its repository writes to the store, and between two passes the world
may change, but the store does not. If the diff cannot be determined in any of these passes, each
time for a reason of its own, and the repository works, then the executor is never asked. After
each pass both axes are unknown with the last reason as their message. Each axis has been told of
once in all passes together, for the first reason, or not at all if it has been unknown before. The
times of the axes stay as the first pass has left them, and for an axis that has been unknown before
as they have been before. Nothing else of the record changes but the time at which it was
written. -/
theorem told_once (view : τ → Stored) (put : Stored → τ → τ)
    (hview : ∀ s w, view (put s w) = s) (c : Collaborators τ)
    (hrepository : c.repository = Stored.repository.zoom view put)
    (hleaves : c.Leaves fun w => (view w).store) (policy : ActionPolicy) (id : String)
    (world : Nat → τ) (hbetween : ∀ n,
      (view (world (n + 1))).store = (view ((c.runPass policy id).run (world n)).2).store)
    (hlisted : ∃ ids, (view (world 0)).store.ids = .ok ids ∧ ids.length ≤ 1)
    (r : Record) (v : ResourceVersion) (hread : (view (world 0)).store.read id = .ok (r, v))
    (n : Nat) (reason : Nat → Failure)
    (hfails : ∀ k ≤ n, c.RunsUndetermined policy id (reason k) (world k)) :
    let calls k := ((c.traced.runPass policy id).run ⟨world k, []⟩).2.calls
    let told := r.conditions.determined.map fun axis => Event.diffFailed axis (reason 0).message
    ∃ since new, new.map RecordedEvent.told = told.map Event.told ∧
      (∀ (axis : Axis) condition, r.conditions.find? axis.conditionType = some condition →
        axis.isUndetermined r.conditions = true → since axis = condition.since) ∧
      ∀ m ≤ n, (∀ call ∈ calls m, call.asksExecutor = false) ∧
        (List.range (m + 1)).flatMap (fun k => (calls k).flatMap Call.published) = told ∧
        ∃ r' v', (view (world (m + 1))).store.read id = .ok (r', v') ∧
          r.Undetermined r' (reason m).message since new := by
  intro calls told
  obtain ⟨hquiet, hpublished, hids, r₁, v₁, since, new, hread₁, hr₁, htold, hsince⟩ :=
    undetermined_runPass hview hrepository hleaves hlisted hread (hfails 0 (Nat.zero_le n))
  refine ⟨since, new, htold, hsince, ?_⟩
  intro m hm
  suffices h : (∃ ids, (view (world (m + 1))).store.ids = .ok ids ∧ ids.length ≤ 1) ∧
      (∀ call ∈ calls m, call.asksExecutor = false) ∧
      (List.range (m + 1)).flatMap (fun k => (calls k).flatMap Call.published) = told ∧
      ∃ r' v', (view (world (m + 1))).store.read id = .ok (r', v') ∧
        r.Undetermined r' (reason m).message since new from h.2
  induction m with
  | zero =>
    rw [hbetween 0]
    exact ⟨hids ▸ hlisted, hquiet, by simpa using hpublished, r₁, v₁, hread₁, hr₁⟩
  | succ m ih =>
    obtain ⟨hlisted, -, htold, r', v', hread, hr⟩ := ih (Nat.le_of_succ_le hm)
    obtain ⟨hquiet, hpublished, hids, hrest⟩ :=
      undetermined_again hview hrepository hleaves hlisted hr hread (hfails (m + 1) hm)
    rw [hbetween (m + 1)]
    refine ⟨hids ▸ hlisted, hquiet, ?_, hrest⟩
    rw [List.range_succ, List.flatMap_append, htold]
    simpa using hpublished

/-! ## A source of diffs that is out of order -/

/-- A store and an executor that do what they are asked, and a source that always fails. -/
def outOfOrder (f : Failure) : Collaborators Stored :=
  { agreeing .empty with diffs := ⟨fun _ => Task.fail f⟩ }

theorem repository_outOfOrder (f : Failure) :
    (outOfOrder f).repository = Stored.repository.zoom (fun s => s) fun s _ => s := rfl

theorem leaves_store_outOfOrder (f : Failure) : (outOfOrder f).Leaves Stored.store :=
  ⟨fun _ => rfl, fun _ _ => rfl, fun _ _ => rfl, fun _ _ => rfl, fun _ _ => rfl, fun _ _ => rfl⟩

theorem leaves_around_outOfOrder (f : Failure) : (outOfOrder f).Leaves Stored.around :=
  ⟨fun _ => rfl, fun _ _ => rfl, fun _ _ => rfl, fun _ _ => rfl, fun _ _ => rfl, fun _ _ => rfl⟩

/-- Where nothing is in the way, the diff is all that is missing. -/
theorem runsUndetermined_outOfOrder (f : Failure) (policy : ActionPolicy) {s : Stored}
    (hsole : s.store.Sole id) (hclear : s.Clear) :
    (outOfOrder f).RunsUndetermined policy id f s ∧
      (((outOfOrder f).runPass policy id).run s).2.store.Sole id ∧
      (((outOfOrder f).runPass policy id).run s).2.Clear := by
  obtain ⟨b, b', more, -, hcourse, hstored, hafter⟩ :=
    stored_runPass (fun _ _ => rfl) (repository_outOfOrder f) (leaves_store_outOfOrder f)
      (leaves_around_outOfOrder f) policy hsole hclear
  obtain ⟨ids, w₀, w₁, -, -, -, hcalls, hmoves⟩ := hcourse.loads
  refine ⟨⟨?_, hstored⟩, hafter⟩
  intro b answer h
  rw [hcalls] at h
  have hmore : .determine b answer ∈ more := by simpa using h
  obtain ⟨s', rfl⟩ := hmoves.exists_answer hmore
  rfl

/-- The components have been unknown before, so that an outage is told of the dogus alone. It is
told once, however long it lasts. -/
theorem told_once_in_outage :
    let r : Record := ⟨formatVersion, "a", .plain,
      ⟨[⟨.componentsApplied, .unknown, Reason.cannotDetermine, "no route", default⟩]⟩, .empty, [],
      default⟩
    let outage : Failure := .internal "timeout"
    ∀ n, ∃ r' v', (Nat.repeat (fun s => (((outOfOrder outage).runPass .standard "a").run s).2)
        (n + 1) (.holding r)).store.read "a" = .ok (r', v') ∧
      r'.events.map RecordedEvent.told
        = [("StateDiffDoguFailed", "cannot determine dogu state diff: " ++ outage.message)] := by
  intro r outage n
  obtain ⟨s, id, hs, hid, hsole, hclear, r₀, v₀, hread, hconditions, hevents⟩ :
      ∃ s id, Stored.holding r = s ∧ "a" = id ∧ s.store.Sole id ∧ s.Clear ∧
        ∃ r₀ v₀, s.store.read id = .ok (r₀, v₀) ∧ r₀.conditions = r.conditions ∧
          r₀.events = [] :=
    ⟨_, _, rfl, rfl, Stored.sole_holding rfl rfl, Stored.clear_holding r, r.remade, _,
      Stored.read_holding rfl, rfl, rfl⟩
  rw [hs, hid]
  let world n := Nat.repeat (fun s => (((outOfOrder outage).runPass .standard id).run s).2) n s
  have hready : ∀ n, (world n).store.Sole id ∧ (world n).Clear := by
    intro n
    induction n with
    | zero => exact ⟨hsole, hclear⟩
    | succ n ih => exact (runsUndetermined_outOfOrder outage .standard ih.1 ih.2).2
  obtain ⟨since, new, htold, -, hrest⟩ := told_once (fun s => s) (fun s _ => s) (fun _ _ => rfl)
    (outOfOrder outage) rfl (leaves_store_outOfOrder outage) .standard id world (fun _ => rfl)
    hsole.listed r₀ v₀ hread n (fun _ => outage) fun k _ =>
      (runsUndetermined_outOfOrder outage .standard (hready k).1 (hready k).2).1
  obtain ⟨-, -, r', v', hread', hr'⟩ := hrest n (Nat.le_refl n)
  refine ⟨r', v', hread', ?_⟩
  have hone : new.map RecordedEvent.told
      = [("StateDiffDoguFailed", "cannot determine dogu state diff: " ++ outage.message)] := by
    rw [htold, hconditions]
    rfl
  have hlength : new.length ≤ historyLimit := by
    have hmap := congrArg List.length hone
    rw [List.length_map] at hmap
    rw [hmap]
    decide
  rw [hr'.events, hevents, List.nil_append, Record.keepLatest_of_le hlength, hone]

end Collaborators
end BlueprintControl
