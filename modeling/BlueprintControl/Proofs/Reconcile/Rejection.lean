import BlueprintControl.Proofs.Policy.Offences
import BlueprintControl.Proofs.Reconcile.Undetermined
import BlueprintControl.Reconcile.Report

/-!
# Passes whose diff is refused

A pass that determines a diff with actions that are not allowed has taken the diff into memory before
it refuses it, and then writes once more. What it writes is the record that was loaded, with the
refused diff in the place of the old one and one more event that says what is wrong with it. The
conditions, the config and the executor are left alone, and nothing further is going to happen.

## Main definitions

* `Record.noted`: a record after a diff has been refused.
* `Collaborators.RunsOn`: a pass in which this diff is determined, and the repository works.

## Main statements

* `Step.Proceeds.eq_of_refused`: the calls after loading, and the result.
* `Collaborators.exists_update_of_refused`: the calls of such a pass.
* `Record.recordOf_rejectActions`, `Store.document?_of_refused`: what is written.
* `Collaborators.rejection_only_notes`: what such a pass leaves.
-/
namespace BlueprintControl

/-! ## Records -/

/-- What the refusal of a diff leaves of a record: the diff, one more event, and its time. -/
def Record.noted (r : Record) (d : StateDiff) (e : RecordedEvent) : Record :=
  { r with diff := d, events := keepLatest (r.events ++ [e]), updated := e.time }

/-- What is written of a blueprint that was loaded and whose new diff is refused. -/
theorem Record.recordOf_rejectActions {r : Record} (hf : r.format = formatVersion)
    (v : Option ResourceVersion) (d : StateDiff) (error : String) (w : Surroundings) :
    Store.recordOf w (({ r.toBlueprint with version := v, diff := d } : Blueprint).rejectActions
      error) r.events
        = r.noted d (.ofEvent (.actionsNotAllowed error) w.now (w.ids 0)) := by
  obtain ⟨format, id, config, conditions, diff, events, updated⟩ := r
  obtain rfl : format = formatVersion := hf
  rfl

/-- The document of a blueprint after a diff has been refused. No other document is touched. -/
theorem Store.document?_of_refused {s t : Store} {w : Surroundings} {b' : Blueprint} {id : String}
    {r : Record} {v : ResourceVersion} {d : StateDiff} {error : String}
    (hread : s.read id = .ok (r, v)) (hid : r.id = id)
    (h : s.update w (({ r.toBlueprint with version := some v, diff := d } : Blueprint).rejectActions
      error) = (.ok b', t)) :
    t.document? id = some (r.noted d
      (.ofEvent (.actionsNotAllowed error) w.now (w.ids 0))).document.toUTF8 ∧
    ∀ other, other ≠ id → t.document? other = s.document? other := by
  subst hid
  obtain ⟨-, -, -, hformat, -⟩ := read_eq_ok_iff.mp hread
  obtain ⟨⟨published, hhistory, hwritten⟩, hothers⟩ := replaced_of_update h
  obtain rfl : r.events = published := Except.ok.inj ((history_of_read hread).symm.trans hhistory)
  rw [Record.recordOf_rejectActions hformat] at hwritten
  exact ⟨hwritten, hothers⟩

/-! ## Passes -/

/-- All that is called after loading, and the result, if the diff is refused and the repository
works. -/
theorem Step.Proceeds.eq_of_refused {σ : Type} {c : Collaborators σ} {b b' : Blueprint}
    {policy : ActionPolicy} {d : StateDiff} {f : Failure} {r : Except Failure Outcome}
    {calls : List Call} (h : Proceeds c b policy r calls b')
    (hrefused : policy.validate d b.config.allowNamespaceSwitch = .error f)
    (hdetermined : ∀ answer, .determine b answer ∈ calls → answer = .ok d)
    (hstored : ∀ call ∈ calls, call.isStorage = true → call.failure? = none) :
    r = .error f ∧ ∃ b'', calls = [.determine b (.ok d),
      .update (({ b with diff := d } : Blueprint).rejectActions f.message) (.ok b'')] := by
  cases h with
  | stopped h =>
    cases h with
    | unknown g now now' h =>
      have hknown := hdetermined (.error g) List.mem_cons_self
      cases hknown
  | continued h h' =>
    obtain ⟨d', rfl, rfl⟩ := h.eq_of_ok
    obtain rfl : d' = d := Except.ok.inj (hdetermined _ (by simp))
    cases h' with
    | stopped h =>
      cases h with
      | denied hdenied h =>
        obtain rfl := Except.error.inj (hrefused.symm.trans hdenied)
        cases h with
        | stored h => exact ⟨rfl, _, rfl⟩
        | failed g =>
          have hfailed := hstored _ (List.mem_append_right _ List.mem_cons_self) rfl
          cases hfailed
    | continued h h' =>
      cases h with
      | allowed hallowed => cases hrefused.symm.trans hallowed
      | denied hdenied h => cases h

namespace Collaborators

/-- In the pass this diff is determined, and the repository works. -/
structure RunsOn {σ : Type} (c : Collaborators σ) (policy : ActionPolicy) (id : String)
    (d : StateDiff) (s : σ) : Prop where
  determined : ∀ b answer,
    .determine b answer ∈ ((c.traced.runPass policy id).run ⟨s, []⟩).2.calls → answer = .ok d
  stored : ∀ call ∈ ((c.traced.runPass policy id).run ⟨s, []⟩).2.calls,
    call.isStorage = true → call.failure? = none

variable {τ : Type} {view : τ → Stored} {put : Stored → τ → τ} {c : Collaborators τ}
  {policy : ActionPolicy} {id : String} {w : τ} {d : StateDiff} {f : Failure} {r : Record}
  {v : ResourceVersion}

/-- The calls of such a pass, and its result. The last call stores the refusal. -/
theorem exists_update_of_refused (hview : ∀ s w, view (put s w) = s)
    (hc : c.repository = Stored.repository.zoom view put)
    (hleaves : c.Leaves fun w => (view w).store)
    (hlisted : ∃ ids, (view w).store.ids = .ok ids ∧ ids.length ≤ 1)
    (hread : (view w).store.read id = .ok (r, v)) (hrun : c.RunsOn policy id d w)
    (hrefused : policy.validate d r.config.allowNamespaceSwitch = .error f) :
    ((c.runPass policy id).run w).1 = .error f ∧
    ∃ ids around b',
      let b : Blueprint := { r.toBlueprint with version := some v }
      let u := ({ b with diff := d } : Blueprint).rejectActions f.message
      ((c.traced.runPass policy id).run ⟨w, []⟩).2.calls
        = [.list (.ok ids), .load id (.ok b), .determine b (.ok d), .update u (.ok b')] ∧
      (view w).store.update around u
        = (.ok b', (view ((c.runPass policy id).run w).2).store) := by
  let b : Blueprint := { r.toBlueprint with version := some v }
  have hload : (view w).store.load id = .ok b := Store.load_of_read hread
  obtain ⟨b', more, hcourse⟩ :=
    exists_course policy (loadSingle_of_listed hview hc hlisted hload)
  obtain ⟨-, -, -, -, hreplays⟩ := hcourse.replays hview hc hleaves
  obtain ⟨ids, -, -, -, -, -, hcalls, -⟩ := hcourse.loads
  obtain ⟨hresult, b'', rfl⟩ := hcourse.proceeds.eq_of_refused hrefused
    (fun answer h => hrun.determined b answer (hcourse.mem_calls h))
    fun call h => hrun.stored call (hcourse.mem_calls h)
  refine ⟨hresult, ?_⟩
  obtain ⟨around, u, heq, -⟩ | ⟨-, hreplays⟩ := hreplays.of_cons
  · cases heq
  · obtain ⟨around, u, heq, hreplays⟩ | ⟨hstorage, -⟩ := hreplays.of_cons
    · obtain ⟨rfl, hanswer⟩ : ({ b with diff := d } : Blueprint).rejectActions f.message = u ∧
          .ok b'' = ((view w).store.update around u).1 := by simpa using heq
      exact ⟨ids, around, b'', hcalls, Prod.ext hanswer.symm hreplays.eq_of_nil.symm⟩
    · cases hstorage

/-- **A refused diff only leaves a note.** A pass for the only blueprint determines a diff with
actions that are not allowed, and the repository works. Then the pass ends with an invalid blueprint
and a list of all offences, and nothing further is going to happen. The executor is not asked, and
one event is published. The document of the blueprint is that of the record that was stored before,
with the refused diff and with one more event at the end of its history, which carries the whole
list. Every condition and the config are as they were, and no other document is touched. -/
theorem rejection_only_notes (view : τ → Stored) (put : Stored → τ → τ)
    (hview : ∀ s w, view (put s w) = s) (c : Collaborators τ)
    (hrepository : c.repository = Stored.repository.zoom view put)
    (hleaves : c.Leaves fun w => (view w).store) (policy : ActionPolicy) (id : String) (w : τ)
    (hlisted : ∃ ids, (view w).store.ids = .ok ids ∧ ids.length ≤ 1) (r : Record)
    (v : ResourceVersion) (hread : (view w).store.read id = .ok (r, v)) (d : StateDiff)
    (hrun : c.RunsOn policy id d w)
    (hrefused : ¬ policy.Permits d r.config.allowNamespaceSwitch) :
    let calls := ((c.traced.runPass policy id).run ⟨w, []⟩).2.calls
    let after := (view ((c.runPass policy id).run w).2).store
    ∃ report : List Mention, report.Pairwise Mention.Before ∧
      (∀ m, m ∈ report ↔ m.StandsIn d ∧ policy.Forbids r.config.allowNamespaceSwitch m) ∧
      ∃ f : Failure, f = .invalidBlueprint
          ("action validation failed: " ++ "; ".intercalate (report.map Mention.text)) ∧
        ((c.runPass policy id).run w).1 = .error f ∧
        (∀ classifier, ((⟨c, policy, classifier⟩ : Reconciler τ).reconcile id w).1
          = ⟨id, none, some f.message, .rest⟩) ∧
        (∀ call ∈ calls, call.asksExecutor = false) ∧
        calls.flatMap Call.published = [.actionsNotAllowed f.message] ∧
        (∀ other, other ≠ id → after.document? other = (view w).store.document? other) ∧
        ∃ e v', e.told = ("BlueprintSpecInvalid",
            "blueprint spec contains actions that are not allowed: " ++ f.message) ∧
          after.document? id = some (r.noted d e).document.toUTF8 ∧
          after.read id = .ok ((r.noted d e).remade, v') := by
  intro calls after
  obtain ⟨report, hordered, hreport, hvalidate⟩ := ActionPolicy.exists_report_of_refused hrefused
  refine ⟨report, hordered, hreport, _, rfl, ?_⟩
  obtain ⟨hresult, ids, around, b', hcalls, hupdate⟩ :=
    exists_update_of_refused hview hrepository hleaves hlisted hread hrun hvalidate
  generalize hf : Failure.invalidBlueprint
    ("action validation failed: " ++ "; ".intercalate (report.map Mention.text)) = f at *
  obtain ⟨content, hd, hr, hformat, -⟩ := Store.read_eq_ok_iff.mp hread
  have hid : r.id = id := by
    obtain ⟨ids, hids, hone⟩ := hlisted
    obtain ⟨found, hfound, -⟩ := Store.isCurrent_of_update (congrArg Prod.fst hupdate)
    exact Store.eq_of_document? hids hone hfound hd
  obtain ⟨hwritten, hothers⟩ := Store.document?_of_refused hread hid hupdate
  refine ⟨hresult, ?_, ?_, ?_, hothers, _, _, ?_, hwritten, Store.read_of_document hwritten hformat⟩
  · intro classifier
    have hreconcile : ((⟨c, policy, classifier⟩ : Reconciler τ).reconcile id w).1
        = .ofResult classifier id ((c.runPass policy id).run w).1 := rfl
    rw [hreconcile, hresult, ← hf]
    rfl
  · change ∀ call ∈ ((c.traced.runPass policy id).run ⟨w, []⟩).2.calls, _
    rw [hcalls]
    simp [Call.asksExecutor]
  · change ((c.traced.runPass policy id).run ⟨w, []⟩).2.calls.flatMap Call.published = _
    rw [hcalls]
    rfl
  · rfl

/-- A dogu is to be downgraded. The completed blueprint stays completed, and what was told before
stays in front of what is told now. -/
theorem rejection_only_notes_downgrade :
    let applied : RecordedEvent := ⟨default, default, "BlueprintApplied", "done"⟩
    let r : Record := ⟨formatVersion, "a", .plain,
      ⟨[⟨.completed, .holds, Reason.applied, "", default⟩]⟩, .empty, [applied], default⟩
    let d : StateDiff := ⟨[⟨"official/ldap", default, default, [.upgrade, .downgrade]⟩], [], []⟩
    let after := (((agreeing d).runPass .standard "a").run (.holding r)).2.store
    ¬ ActionPolicy.standard.Permits d false ∧ ∃ e v' r', after.read "a" = .ok (r', v') ∧
      r'.conditions = r.conditions ∧ r'.config = r.config ∧ r'.events = [applied, e] ∧
      e.name = "BlueprintSpecInvalid" := by
  intro applied r d after
  have hrefused : ¬ ActionPolicy.standard.Permits d false := by
    intro h
    have hswitch := h.dogus _ List.mem_cons_self .downgrade (by simp)
      (by simp [ActionPolicy.standard])
    cases hswitch.1
  obtain ⟨s, id, hs, hid, hsole, hclear, v, hread⟩ : ∃ s id, Stored.holding r = s ∧ "a" = id ∧
      s.store.Sole id ∧ s.Clear ∧ ∃ v, s.store.read id = .ok (r.remade, v) :=
    ⟨_, _, rfl, rfl, Stored.sole_holding rfl rfl, Stored.clear_holding r, _,
      Stored.read_holding rfl⟩
  simp only [after]
  rw [hs, hid]
  obtain ⟨hsmooth, -⟩ := smooth_agreeing d .standard hsole hclear
  have hrun : (agreeing d).RunsOn .standard id d s :=
    ⟨fun b answer h => hsmooth _ h, fun call h _ => (hsmooth _ h).flawless⟩
  obtain ⟨report, -, -, f, -, -, -, -, -, -, e, v', htold, -, hafter⟩ :=
    rejection_only_notes (fun s => s) (fun s _ => s) (fun _ _ => rfl) (agreeing d) rfl
      (leaves_store_agreeing d) .standard id s hsole.listed r.remade v hread d hrun hrefused
  exact ⟨hrefused, e, v', _, hafter, rfl, rfl, rfl, congrArg Prod.fst htold⟩

end Collaborators
end BlueprintControl
