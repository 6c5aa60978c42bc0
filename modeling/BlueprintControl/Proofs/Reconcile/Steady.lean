import BlueprintControl.Proofs.Reconcile.Closing

/-!
# Passes that are repeated

A pass that finds its blueprint at rest, and is given the diff that was evaluated, hands over
nothing but this blueprint, and without events. So what the first pass has stored is stored again
by each pass that repeats it, and only the time at which it was written moves.

## Main definitions

* `Blueprint.Remains`: nothing but one blueprint is handed over, and it is left in the end.
* `Step.Ending.Rests`: a step that leaves its blueprint as it is, if no call fails.
* `Record.Rests`: a record that a pass under a diff leaves as it is.
* `Collaborators.RunsSmoothly`: a pass that is given a diff, and in which no call fails.

## Main statements

* `Step.rests_continues`: what follows on the diff leaves a blueprint at rest as it is.
* `Collaborators.rests_of_ok`: the record that is stored by a pass that succeeds is at rest.
* `Collaborators.retains_runPass`, `Collaborators.retains_passes`: passes on a record at rest.
* `Collaborators.steady_runPass`: any number of passes after one that has succeeded.
-/
namespace BlueprintControl

/-! ## Blueprints at rest -/

namespace Blueprint

variable {b b' b'' : Blueprint} {outcome : Outcome} {calls more : List Call}

theorem AtRest.congr (h : b.AtRest outcome) (hconfig : b'.config = b.config)
    (hconditions : b'.conditions = b.conditions) (hdiff : b'.diff = b.diff) :
    b'.AtRest outcome := by
  cases h with
  | dryRun hdry hsettled =>
    refine .dryRun (hconfig ▸ hdry) fun axis => (isSettled_congr ?_ ?_).mpr (hsettled axis)
    · rw [hconditions]
    · rw [hdiff]
  | completed hwet hd hsaid =>
    exact .completed (hconfig ▸ hwet) (hdiff ▸ hd) fun t => hconditions ▸ hsaid t

/-- At rest no axis has anything to be written. -/
theorem AtRest.isSettled (h : b.AtRest outcome) (axis : Axis) : b.IsSettled axis := by
  cases h with
  | dryRun hdry hsettled => exact hsettled axis
  | completed hwet hd hsaid =>
    have hsaid := hsaid axis.conditionType
    rw [axis.closing_conditionType] at hsaid
    exact isSettled_of_says hsaid (axis.hasChanges_eq_false_of_converged hd)

theorem AtRest.evaluated_eq (h : b.AtRest outcome) (now now' : Stamp) :
    b.evaluated none now now' = b := by
  rw [evaluated, evaluate_of_isSettled (h.isSettled .dogus),
    evaluate_of_isSettled (h.isSettled .components)]

theorem AtRest.completeApply_eq (h : b.AtRest .completed) (axis : Axis) (now : Stamp) :
    (b.completeApply axis none now).blueprint = b := by
  cases h with
  | completed hwet hd hsaid =>
    have hsaid := hsaid axis.conditionType
    rw [axis.closing_conditionType] at hsaid
    exact completeApply_of_says hsaid (axis.hasChanges_eq_false_of_converged hd) now

theorem AtRest.finishConfig_eq (h : b.AtRest .completed) (now : Stamp) :
    (b.finishConfig now).blueprint = b := by
  cases h with
  | completed hwet hd hsaid => exact transition_of_says (hsaid .configApplied) now (.inl rfl)

theorem AtRest.complete_eq (h : b.AtRest .completed) (now : Stamp) :
    (b.complete now).blueprint = b := by
  cases h with
  | completed hwet hd hsaid => exact transition_of_says (hsaid .completed) now (.inl rfl)

theorem AtRest.converged (h : b.AtRest .completed) : b.diff.Converged := by
  cases h with
  | completed hwet hd hsaid => exact hd

/-! ## Nothing else is handed over -/

/-- Whatever is handed over, and what is left in the end, is this blueprint in some version. -/
structure Remains (b : Blueprint) (calls : List Call) (b' : Blueprint) : Prop where
  left : ∃ v, b' = { b with version := v }
  handed : ∀ u answer, .update u answer ∈ calls → ∃ v, u = { b with version := v }

theorem remains_nil (b : Blueprint) : b.Remains [] b :=
  ⟨⟨b.version, rfl⟩, fun _ _ h => absurd h List.not_mem_nil⟩

theorem Remains.cons {call : Call} (h : b.Remains calls b') (hcall : call.updated? = none) :
    b.Remains (call :: calls) b' := by
  refine ⟨h.left, fun u answer hu => ?_⟩
  obtain rfl | hmem := List.mem_cons.mp hu
  · cases hcall
  · exact h.handed u answer hmem

theorem Remains.append (h : b.Remains calls b') (h' : b'.Remains more b'') :
    b.Remains (calls ++ more) b'' := by
  obtain ⟨v, rfl⟩ := h.left
  exact ⟨h'.left, fun u answer hu => (List.mem_append.mp hu).elim (h.handed u answer)
    (h'.handed u answer)⟩

end Blueprint

namespace Step

variable {σ α : Type} {c : Collaborators σ} {b : Blueprint} {outcome : Outcome}

/-- The step leaves this blueprint as it is, if no call fails. -/
def Ending.Rests (Q : Ending α) (b : Blueprint) : Prop :=
  ∀ r calls b', Q r calls b' → (∀ call ∈ calls, call.failure? = none) → b.Remains calls b'

theorem Ending.Rests.seq {first : Ending Unit} {second : Blueprint → Ending α}
    (hfirst : first.Rests b)
    (hsecond : ∀ v, (second { b with version := v }).Rests { b with version := v }) :
    (first.Then second).Rests b := by
  intro r calls b' h hcalls
  cases h with
  | stopped h => exact hfirst _ _ _ h hcalls
  | continued h h' =>
    obtain ⟨hbefore, hafter⟩ := List.forall_mem_append.mp hcalls
    have hremains := hfirst _ _ _ h hbefore
    obtain ⟨v, rfl⟩ := hremains.left
    exact hremains.append (hsecond v _ _ _ h' hafter)

theorem rests_checksActions {policy : ActionPolicy}
    (hvalid : policy.validate b.diff b.config.allowNamespaceSwitch = .ok ()) :
    (ChecksActions c b policy).Rests b := by
  rintro r calls b' h hcalls
  cases h with
  | allowed h => exact b.remains_nil
  | denied h h' =>
    rw [hvalid] at h
    cases h

theorem rests_checksHealth : (ChecksHealth c b).Rests b := by
  rintro r calls b' h hcalls
  cases h with
  | healthy => exact b.remains_nil.cons rfl
  | unhealthy h h' => cases hcalls _ List.mem_cons_self
  | unknown h => cases hcalls _ List.mem_cons_self

section Faithful

variable (hc : c.repository.Faithful) (hpending : b.pending = [])
include hc hpending

theorem rests_saves : (Saves c b).Rests b := by
  rintro r calls b' h hcalls
  cases h with
  | stored h =>
    obtain ⟨v, rfl⟩ := hc _ _ _ _ h
    have hdrained : b.drained = b := by rw [Blueprint.drained, ← hpending]
    refine ⟨⟨v, by rw [hdrained]⟩, fun u answer hu => ?_⟩
    cases List.mem_singleton.mp hu
    exact ⟨b.version, rfl⟩
  | failed f => cases hcalls _ List.mem_cons_self

theorem rests_applies (hb : b.AtRest .completed) (axis : Axis) : (Applies c b axis).Rests b := by
  rintro r calls b' h hcalls
  have happlied : ∀ answer, (axis.applyCall b.diff answer).updated? = none := by
    cases axis <;> exact fun _ => rfl
  cases h with
  | told answer now h =>
    obtain ⟨hcall, hrest⟩ := List.forall_mem_cons.mp hcalls
    obtain rfl := eq_ok_of_failure? hcall
    rw [errorOf, hb.completeApply_eq] at h
    exact (rests_saves hc hpending _ _ _ h hrest).cons (happlied _)
  | silent answer now h h' =>
    obtain rfl := eq_ok_of_failure? (hcalls _ List.mem_cons_self)
    rw [errorOf, hb.completeApply_eq]
    exact b.remains_nil.cons (happlied _)

omit hc hpending in
theorem rests_appliesConfig (hb : b.AtRest .completed) : (AppliesConfig c b).Rests b := by
  rintro r calls b' h hcalls
  cases h with
  | converged h now =>
    rw [hb.finishConfig_eq]
    exact b.remains_nil
  | needed h now h' =>
    rw [StateDiff.configHasChanges, anyChanges_eq_false_iff.mpr hb.converged.config] at h
    cases h

theorem rests_finishes (hb : b.AtRest .completed) : (Finishes c b false).Rests b := by
  rintro r calls b' h hcalls
  cases h with
  | changed h => cases h
  | completed h now h' =>
    rw [hb.complete_eq] at h'
    exact rests_saves hc hpending _ _ _ h' hcalls

/-- Applying everything again changes nothing where everything is applied. -/
theorem rests_appliesAll (hb : b.AtRest .completed) : (AppliesAll c b).Rests b := by
  have hversion : ∀ v, ({ b with version := v } : Blueprint).AtRest .completed := fun v =>
    hb.congr rfl rfl rfl
  have hnone : ∀ v, ({ b with version := v } : Blueprint).pending = [] := fun _ => hpending
  refine rests_checksHealth.seq fun v => ?_
  rw [StateDiff.hasChanges_eq_false_iff.mpr hb.converged]
  refine (rests_applies hc (hnone v) (hversion v) .components).seq fun v => ?_
  refine (rests_applies hc (hnone v) (hversion v) .dogus).seq fun v => ?_
  refine (rests_appliesConfig (hversion v)).seq fun v => ?_
  exact rests_finishes hc (hnone v) (hversion v)

theorem rests_evaluates (hb : b.AtRest outcome) : (Evaluates c b).Rests b := by
  rintro r calls b' h hcalls
  cases h with
  | dryRun hdry now now' h =>
    rw [hb.evaluated_eq] at h
    exact rests_saves hc hpending _ _ _ h hcalls
  | applied hwet now now' h =>
    rw [hb.evaluated_eq] at h
    cases outcome with
    | completed => exact rests_appliesAll hc hpending hb _ _ _ h hcalls
    | dryRun =>
      cases hb with
      | dryRun hdry hsettled =>
        rw [hwet] at hdry
        cases hdry

/-- What follows on the diff leaves a blueprint at rest as it is. -/
theorem rests_continues {policy : ActionPolicy}
    (hvalid : policy.validate b.diff b.config.allowNamespaceSwitch = .ok ())
    (hb : b.AtRest outcome) : (Continues c policy b).Rests b :=
  (rests_checksActions hvalid).seq fun v =>
    rests_evaluates (b := { b with version := v }) hc hpending (hb.congr rfl rfl rfl)

end Faithful

/-- It comes to the outcome of the pass that has left the blueprint at rest. -/
theorem reaches_of_atRest {policy : ActionPolicy}
    (hvalid : policy.validate b.diff b.config.allowNamespaceSwitch = .ok ())
    (hb : b.AtRest outcome) : (Continues c policy b).Reaches outcome := by
  cases hb with
  | dryRun hdry hsettled => exact reaches_continues_of_dryRun hvalid hdry
  | completed hwet hd hsaid =>
    exact reaches_continues hvalid hwet (StateDiff.hasChanges_eq_false_iff.mpr hd)

end Step

/-! ## Records at rest -/

/-- A record that was stored by a pass under a diff, and that such a pass leaves as it is. -/
structure Record.Rests (r : Record) (policy : ActionPolicy) (d : StateDiff) (outcome : Outcome) :
    Prop where
  valid : policy.validate d r.config.allowNamespaceSwitch = .ok ()
  keeps : r.Keeps { r.toBlueprint with diff := d }
  atRest : { r.toBlueprint with diff := d }.AtRest outcome

namespace Collaborators

/-- The pass is given this diff, and no call fails. -/
structure RunsSmoothly {σ : Type} (c : Collaborators σ) (policy : ActionPolicy) (id : String)
    (d : StateDiff) (s : σ) : Prop where
  flawless : ∀ call ∈ ((c.traced.runPass policy id).run ⟨s, []⟩).2.calls, call.failure? = none
  determined : ∃ b, .determine b (.ok d) ∈ ((c.traced.runPass policy id).run ⟨s, []⟩).2.calls

variable {τ : Type} {view : τ → Stored} {put : Stored → τ → τ} {c : Collaborators τ}
  {policy : ActionPolicy} {id : String} {w : τ} {d : StateDiff} {outcome : Outcome}

section Stored

variable (hview : ∀ s w, view (put s w) = s)
  (hc : c.repository = Stored.repository.zoom view put)
  (hleaves : c.Leaves fun w => (view w).store)
include hview hc hleaves

/-- The record that is stored by a pass that succeeds is at rest. -/
theorem rests_of_ok {b : Blueprint} (hok : ((c.runPass policy id).run w).1 = .ok outcome)
    (hd : .determine b (.ok d) ∈ ((c.traced.runPass policy id).run ⟨w, []⟩).2.calls) :
    ∃ r v, (view ((c.runPass policy id).run w).2).store.read id = .ok (r, v) ∧ r.id = id ∧
      r.Rests policy d outcome := by
  have hfaithful : c.repository.Faithful := hc ▸ Stored.faithful_repository.zoom view put
  obtain ⟨b', rest, hcourse, hcontinues⟩ := exists_course_of_determine hd
  rw [hok] at hcontinues
  have hpasses := c.passes_runPass policy id w
  rw [c.fst_traced_runPass, hok] at hpasses
  obtain ⟨r, v, hread, hkeeps, -⟩ := hcourse.read hview hc hpasses.flawless
  have hid : b'.id = id := hcourse.id_eq hview hc hleaves hread
  rw [hid] at hread
  obtain ⟨hrest, -, hconfig, hdiff⟩ := hcontinues.atRest hfaithful
  obtain rfl : b'.diff = d := hdiff
  refine ⟨r, v, hread, hkeeps.id.trans hid, ?_, ?_, ?_⟩
  · rw [hkeeps.config, hconfig]
    exact hcontinues.of_ok.1
  · exact ⟨rfl, rfl, rfl, hkeeps.diff, hkeeps.bounded⟩
  · exact hrest.congr hkeeps.config hkeeps.conditions rfl

/-- A pass on a record at rest has the same outcome again. It hands over no events, and the record
stays as it is. -/
theorem retains_runPass {r : Record} (hr : r.Rests policy d outcome)
    (hw : (view w).store.Retains r) (hrun : c.RunsSmoothly policy r.id d w) :
    ((c.runPass policy r.id).run w).1 = .ok outcome ∧
      (∀ u answer, .update u answer ∈ ((c.traced.runPass policy r.id).run ⟨w, []⟩).2.calls →
        u.pending = []) ∧
      (view ((c.runPass policy r.id).run w).2).store.Retains r := by
  have hfaithful : c.repository.Faithful := hc ▸ Stored.faithful_repository.zoom view put
  obtain ⟨b, hd⟩ := hrun.determined
  obtain ⟨b', rest, hcourse, hcontinues⟩ := exists_course_of_determine hd
  obtain ⟨-, -, -, hload, hreplays⟩ := hcourse.replays hview hc hleaves
  obtain ⟨v, rfl⟩ := hw.of_load hload
  have hatRest : { r.toBlueprint with diff := d, version := v }.AtRest outcome :=
    hr.atRest.congr rfl rfl rfl
  have hresult := eq_ok_of_reaches hd hrun.flawless (Step.reaches_of_atRest hr.valid hatRest)
  have hflawless : ∀ call ∈ .determine { r.toBlueprint with version := v } (.ok d) :: rest,
      call.failure? = none := fun call hcall => hrun.flawless call (hcourse.mem_calls hcall)
  have hremains := Step.rests_continues (b := { r.toBlueprint with diff := d, version := v })
    hfaithful rfl hr.valid hatRest _ _ _ hcontinues (List.forall_mem_cons.mp hflawless).2
  have hhanded : ∀ u answer, .update u answer ∈ rest → r.Keeps u ∧ u.pending = [] := by
    intro u answer hu
    obtain ⟨v', rfl⟩ := hremains.handed u answer hu
    exact ⟨⟨hr.keeps.id, hr.keeps.config, hr.keeps.conditions, hr.keeps.diff, hr.keeps.bounded⟩,
      rfl⟩
  refine ⟨hresult, fun u answer hu => ?_, ?_⟩
  · obtain ⟨ids, -, -, -, -, -, hcalls, -⟩ := hcourse.loads
    rw [hcalls] at hu
    exact (hhanded u answer (by simpa using hu)).2
  · exact hreplays.retains hflawless (fun u answer hu => hhanded u answer (by simpa using hu)) hw

/-- Passes on a record at rest, one after another, leave it as it is. -/
theorem retains_passes {r : Record} (hr : r.Rests policy d outcome) (world : Nat → τ)
    (hbetween : ∀ n,
      (view (world (n + 1))).store = (view ((c.runPass policy r.id).run (world n)).2).store)
    (hstart : (view (world 0)).store.Retains r) {n : Nat}
    (hsmooth : ∀ k < n, c.RunsSmoothly policy r.id d (world k)) :
    (view (world n)).store.Retains r := by
  induction n with
  | zero => exact hstart
  | succ n ih =>
    have hbefore := ih fun k hk => hsmooth k (Nat.lt_succ_of_lt hk)
    rw [hbetween]
    exact (retains_runPass hview hc hleaves hr hbefore (hsmooth n (Nat.lt_succ_self n))).2.2

end Stored

/-- **Steady state is silent.** Passes are repeated. Of all that a pass asks only its repository
writes to the store, and between two passes the world may change, but the store does not. Once a
pass under some diff has succeeded, every pass after it under this diff has the same outcome, as
long as no call fails. It hands over no events, and the record that is read afterwards is the one
that the first pass has left, but for the time at which it was written. -/
theorem steady_runPass (view : τ → Stored) (put : Stored → τ → τ)
    (hview : ∀ s w, view (put s w) = s) (c : Collaborators τ)
    (hrepository : c.repository = Stored.repository.zoom view put)
    (hleaves : c.Leaves fun w => (view w).store) (policy : ActionPolicy) (id : String)
    (world : Nat → τ) (hbetween : ∀ n,
      (view (world (n + 1))).store = (view ((c.runPass policy id).run (world n)).2).store)
    (outcome : Outcome) (hfirst : ((c.runPass policy id).run (world 0)).1 = .ok outcome)
    (d : StateDiff) (hdetermined : ∃ b, .determine b (.ok d) ∈
      ((c.traced.runPass policy id).run ⟨world 0, []⟩).2.calls) :
    ∃ r v, (view (world 1)).store.read id = .ok (r, v) ∧
      ∀ n, (∀ k ≤ n, c.RunsSmoothly policy id d (world (k + 1))) →
        ((c.runPass policy id).run (world (n + 1))).1 = .ok outcome ∧
        (∀ u answer, .update u answer ∈
          ((c.traced.runPass policy id).run ⟨world (n + 1), []⟩).2.calls → u.pending = []) ∧
        ∃ now v, (view (world (n + 2))).store.read id = .ok ({ r with updated := now }, v) := by
  obtain ⟨b, hd⟩ := hdetermined
  obtain ⟨r, v, hread, rfl, hr⟩ := rests_of_ok hview hrepository hleaves hfirst hd
  rw [← hbetween 0] at hread
  refine ⟨r, v, hread, fun n hsmooth => ?_⟩
  have hbefore : (view (world (n + 1))).store.Retains r :=
    retains_passes hview hrepository hleaves hr (fun k => world (k + 1))
      (fun k => hbetween (k + 1)) ⟨r.updated, v, hread⟩ fun k hk => hsmooth k (Nat.le_of_lt hk)
  obtain ⟨hresult, hquiet, hafter⟩ :=
    retains_runPass hview hrepository hleaves hr hbefore (hsmooth n (Nat.le_refl n))
  refine ⟨hresult, hquiet, ?_⟩
  rw [hbetween]
  exact hafter

/-- In dry run it is said once that a dogu is to be installed, and then all is silent. -/
theorem steady_of_dryRun :
    let r : Record := ⟨formatVersion, "a", { BlueprintConfig.plain with dryRun := true },
      ⟨[⟨.configApplied, .unknown, "Paused", "", default⟩]⟩, .empty, [], default⟩
    let d : StateDiff := ⟨[⟨"official/ldap", default, default, [.install]⟩], [], []⟩
    ∃ r' v, (afterPasses d .standard "a" (.holding r) 1).store.read "a" = .ok (r', v) ∧
      ∀ n, (((agreeing d).runPass .standard "a").run
          (afterPasses d .standard "a" (.holding r) (n + 1))).1 = .ok .dryRun ∧
        (∀ u answer, .update u answer ∈ (((agreeing d).traced.runPass .standard "a").run
          ⟨afterPasses d .standard "a" (.holding r) (n + 1), []⟩).2.calls → u.pending = []) ∧
        ∃ now v, (afterPasses d .standard "a" (.holding r) (n + 2)).store.read "a"
          = .ok ({ r' with updated := now }, v) := by
  intro r d
  -- What store it is does not matter for the passes, and none of them is to be evaluated.
  obtain ⟨s, id, hs, hid, hsole, hclear, b, hload, hdry, hvalid⟩ : ∃ s id, Stored.holding r = s ∧
      "a" = id ∧ s.store.Sole id ∧ s.Clear ∧ ∃ b, s.store.load id = .ok b ∧
      b.config.dryRun = true ∧
      ActionPolicy.standard.validate d b.config.allowNamespaceSwitch = .ok () :=
    ⟨_, _, rfl, rfl, Stored.sole_holding rfl rfl, Stored.clear_holding r, _,
      Stored.load_holding rfl, rfl, rfl⟩
  rw [hs, hid]
  have hsmooth := smooth_afterPasses d .standard hsole hclear
  have hrepeats : ∀ n, (agreeing d).RunsSmoothly .standard id d (afterPasses d .standard id s n) :=
    fun n =>
      ⟨fun call hcall => ((hsmooth n).1 call hcall).flawless, (hsmooth n).2.imp fun _ h => h.2⟩
  obtain ⟨b₀, hload₀, hd⟩ := (hsmooth 0).2
  cases hload.symm.trans hload₀
  have hfirst := eq_ok_of_reaches hd (hrepeats 0).flawless
    (Step.reaches_continues_of_dryRun (b := { b with diff := d }) hvalid hdry)
  obtain ⟨r', v, hread, hsilent⟩ := steady_runPass (fun s => s) (fun s _ => s) (fun _ _ => rfl)
    (agreeing d) rfl (leaves_store_agreeing d) .standard id (afterPasses d .standard id s)
    (fun _ => rfl) .dryRun hfirst d ⟨b, hd⟩
  exact ⟨r', v, hread, fun n => hsilent n fun k _ => hrepeats (k + 1)⟩

end Collaborators
end BlueprintControl
