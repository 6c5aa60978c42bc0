import BlueprintControl.Proofs.Domain.Rest
import BlueprintControl.Proofs.Reconcile.Smooth

/-!
# What a successful pass ends with

A pass that completes writes all four conditions, whatever it has found of them: components and
dogus after the executor was asked, the config because there is nothing to do, and completion last.
A pass in dry run has evaluated both axes. Either way the blueprint is at rest then: the same pass
would find nothing to change.

## Main definitions

* `Blueprint.Closing`: a blueprint on the way to the end of a pass that completes.
* `Blueprint.AtRest`: what is true of a blueprint after a pass with this outcome.

## Main statements

* `Step.Continues.atRest`: a pass that succeeds leaves its blueprint at rest.
* `Collaborators.converges_runPass`: a pass without changes and without failures completes.
-/
namespace BlueprintControl

theorem ActionPolicy.permits_of_converged {d : StateDiff} (h : d.Converged) (p : ActionPolicy)
    (allowSwitch : Bool) : p.Permits d allowSwitch where
  dogus e he a ha := by simp [h.dogus e he] at ha
  components e he a ha := by simp [h.components e he] at ha

theorem Axis.hasChanges_eq_false_of_converged {d : StateDiff} (h : d.Converged) (axis : Axis) :
    axis.hasChanges d = false := by
  cases axis with
  | dogus => exact anyChanges_eq_false_iff.mpr h.dogus
  | components => exact anyChanges_eq_false_iff.mpr h.components

theorem Axis.closing_conditionType (axis : Axis) :
    axis.conditionType.closing = (Reason.applied, axis.name ++ " applied") := by
  cases axis <;> rfl

namespace Blueprint

variable {b₀ b b' : Blueprint} {ts : List ConditionType} {t : ConditionType}

/-- A blueprint on the way to the end of a pass that completes. Besides events and version only
conditions have changed, and these types say what they are going to say. -/
structure Closing (b₀ : Blueprint) (ts : List ConditionType) (b : Blueprint) : Prop where
  id : b.id = b₀.id
  config : b.config = b₀.config
  diff : b.diff = b₀.diff
  said : ∀ t ∈ ts, b.conditions.Says t .holds t.closing.1 t.closing.2

theorem closing_refl (b : Blueprint) : b.Closing [] b := ⟨rfl, rfl, rfl, nofun⟩

/-- One more type says what it is going to say. -/
theorem Closing.transition (h : Closing b₀ ts b) {reason message : String}
    (ht : t.closing = (reason, message)) (now : Stamp) (always : Bool) (event : Option Event) :
    Closing b₀ (t :: ts) (b.transition t .holds reason message now always event).blueprint := by
  obtain ⟨hid, hconfig, hdiff, -⟩ := b.transition_frame now t .holds reason message always event
  refine ⟨hid.trans h.id, hconfig.trans h.config, hdiff.trans h.diff, fun u hu => ?_⟩
  rw [conditions_transition]
  by_cases hut : u = t
  · subst hut
    rw [ht]
    exact Conditions.says_set
  · exact (Conditions.says_set_of_ne hut).mpr (h.said u ((List.mem_cons.mp hu).resolve_left hut))

theorem Closing.completeApply (h : Closing b₀ ts b) (axis : Axis) (now : Stamp) :
    Closing b₀ (axis.conditionType :: ts) (b.completeApply axis none now).blueprint :=
  h.transition axis.closing_conditionType now _ _

theorem Closing.finishConfig (h : Closing b₀ ts b) (now : Stamp) :
    Closing b₀ (.configApplied :: ts) (b.finishConfig now).blueprint :=
  h.transition rfl now _ _

theorem Closing.complete (h : Closing b₀ ts b) (now : Stamp) :
    Closing b₀ (.completed :: ts) (b.complete now).blueprint :=
  h.transition rfl now _ _

/-- A blueprint after a pass with this outcome, of which another pass like it changes nothing. -/
inductive AtRest : Outcome → Blueprint → Prop where
  | dryRun {b : Blueprint} (hdry : b.config.dryRun = true) (hsettled : ∀ axis, b.IsSettled axis) :
      AtRest .dryRun b
  | completed {b : Blueprint} (hwet : b.config.dryRun = false) (hd : b.diff.Converged)
      (hsaid : ∀ t : ConditionType, b.conditions.Says t .holds t.closing.1 t.closing.2) :
      AtRest .completed b

/-- Once both axes have been evaluated they are settled. -/
theorem isSettled_evaluated (b : Blueprint) (now now' : Stamp) (axis : Axis) :
    (b.evaluated none now now').IsSettled axis := by
  cases axis with
  | components => exact isSettled_evaluate _ .components now'
  | dogus =>
    have hne : Axis.dogus ≠ Axis.components := by decide
    exact (b.isSettled_evaluate .dogus now).evaluate_other hne now'

end Blueprint

namespace Step

variable {σ : Type} {c : Collaborators σ} {b₀ b b' : Blueprint} {ts : List ConditionType}
  {calls : List Call}

section Faithful

variable (hc : c.repository.Faithful)
include hc

theorem Saves.closing (hb : Blueprint.Closing b₀ ts b) (h : Saves c b (.ok ()) calls b') :
    Blueprint.Closing b₀ ts b' := by
  cases h with
  | stored h =>
    obtain ⟨v, rfl⟩ := hc _ _ _ _ h
    exact ⟨hb.id, hb.config, hb.diff, hb.said⟩

theorem Applies.closing {axis : Axis} (hb : Blueprint.Closing b₀ ts b)
    (h : Applies c b axis (.ok ()) calls b') :
    Blueprint.Closing b₀ (axis.conditionType :: ts) b' := by
  obtain ⟨now, rfl | ⟨more, hsaved⟩⟩ := h.of_ok
  · exact hb.completeApply axis now
  · exact hsaved.closing hc (hb.completeApply axis now)

omit hc in
/-- Where there is nothing to do, the config counts as applied. -/
theorem AppliesConfig.closing (hd : b₀.diff.configHasChanges = false)
    (hb : Blueprint.Closing b₀ ts b) (h : AppliesConfig c b (.ok ()) calls b') :
    Blueprint.Closing b₀ (.configApplied :: ts) b' := by
  cases h with
  | converged h now => exact hb.finishConfig now
  | needed h now h' =>
    rw [hb.diff, hd] at h
    cases h

theorem Finishes.closing {hadChanges : Bool} {outcome : Outcome}
    (hb : Blueprint.Closing b₀ ts b) (h : Finishes c b hadChanges (.ok outcome) calls b') :
    Blueprint.Closing b₀ (.completed :: ts) b' := by
  obtain ⟨-, -, now, hsaved⟩ := h.of_ok
  exact hsaved.closing hc (hb.complete now)

/-- Components, dogus, config and completion, one after another. -/
theorem AppliesAll.closing {outcome : Outcome} (h : AppliesAll c b (.ok outcome) calls b') :
    Blueprint.Closing b [.completed, .configApplied, .dogusApplied, .componentsApplied] b' := by
  obtain ⟨-, hchanges⟩ := h.of_ok
  have hd : b.diff.configHasChanges = false :=
    anyChanges_eq_false_iff.mpr (StateDiff.hasChanges_eq_false_iff.mp hchanges).config
  obtain ⟨_, _, b₀, -, hhealth, hafter⟩ := Ending.Then.of_ok h
  obtain ⟨_, _, b₁, -, hcomponents, hafter⟩ := Ending.Then.of_ok hafter
  obtain ⟨_, _, b₂, -, hdogus, hafter⟩ := Ending.Then.of_ok hafter
  obtain ⟨_, _, b₃, -, hconfig, hfinishes⟩ := Ending.Then.of_ok hafter
  have hb₀ : Blueprint.Closing b [] b₀ := hhealth.eq_of_ok.2 ▸ b.closing_refl
  have hb₁ := hcomponents.closing hc hb₀
  have hb₂ := hdogus.closing hc hb₁
  exact hfinishes.closing hc (hconfig.closing hd hb₂)

/-- A pass that succeeds leaves its blueprint at rest. -/
theorem Continues.atRest {policy : ActionPolicy} {outcome : Outcome}
    (h : Continues c policy b (.ok outcome) calls b') :
    b'.AtRest outcome ∧ b'.id = b.id ∧ b'.config = b.config ∧ b'.diff = b.diff := by
  obtain ⟨_, _, b₁, -, hchecked, hevaluates⟩ := Ending.Then.of_ok h
  obtain rfl : b₁ = b := hchecked.eq_of_ok.2.1
  generalize hr : (.ok outcome : Except Failure Outcome) = r at hevaluates
  cases hevaluates with
  | @dryRun hdry now now' r calls b' hsaved =>
    cases r with
    | ok _ =>
      obtain rfl : outcome = .dryRun := by cases hr; rfl
      cases hsaved with
      | stored hstored =>
        obtain ⟨v, rfl⟩ := hc _ _ _ _ hstored
        obtain ⟨hid, hconfig, hdiff, -⟩ := b₁.evaluated_frame none now now'
        exact ⟨.dryRun (hconfig ▸ hdry) (b₁.isSettled_evaluated now now'), hid, hconfig, hdiff⟩
    | error f => cases hr
  | applied hwet now now' happlies =>
    subst hr
    obtain ⟨rfl, hchanges⟩ := happlies.of_ok
    have hclosing := happlies.closing hc
    obtain ⟨hid, hconfig, hdiff, -⟩ := b₁.evaluated_frame none now now'
    have hconverged : b'.diff.Converged :=
      hclosing.diff ▸ StateDiff.hasChanges_eq_false_iff.mp hchanges
    have hwet' : b'.config.dryRun = false := by rw [hclosing.config, hconfig, hwet]
    refine ⟨.completed hwet' hconverged fun t => hclosing.said t ?_, hclosing.id.trans hid,
      hclosing.config.trans hconfig, hclosing.diff.trans hdiff⟩
    cases t <;> decide

end Faithful
end Step

namespace Collaborators

variable {τ : Type} {view : τ → Stored} {put : Stored → τ → τ} {c : Collaborators τ}

/-- **Convergence from anywhere.** A pass loads a blueprint that is not in dry run, and no more than
this one is listed. If the diff it is given needs no action, and no call fails, then the pass
completes, whatever conditions it has found. In the record that is read back afterwards all
conditions hold. -/
theorem converges_runPass (view : τ → Stored) (put : Stored → τ → τ)
    (hview : ∀ s w, view (put s w) = s) (c : Collaborators τ)
    (hrepository : c.repository = Stored.repository.zoom view put) (policy : ActionPolicy)
    (id : String) (w : τ) (b : Blueprint) (hloaded : ((c.loadSingle id).run w).1 = .ok b)
    (hwet : b.config.dryRun = false)
    (hconverged : ∀ b d, .determine b (.ok d) ∈
      ((c.traced.runPass policy id).run ⟨w, []⟩).2.calls → d.Converged)
    (hcalls : ∀ call ∈ ((c.traced.runPass policy id).run ⟨w, []⟩).2.calls,
      call.failure? = none) :
    ((c.runPass policy id).run w).1 = .ok .completed ∧
      ∃ r v, (view ((c.runPass policy id).run w).2).store.read b.id = .ok (r, v) ∧
        ∀ t : ConditionType, r.conditions.isTrue t = true := by
  have hfaithful : c.repository.Faithful :=
    hrepository ▸ Stored.faithful_repository.zoom view put
  obtain ⟨_, _, hcourse⟩ := exists_course policy hloaded
  obtain ⟨d, hdetermined⟩ := hcourse.exists_determine hcalls
  have hd : d.Converged := hconverged b d hdetermined
  have hvalid := ActionPolicy.validate_eq_ok_iff.mpr
    (policy.permits_of_converged hd b.config.allowNamespaceSwitch)
  have hresult : ((c.runPass policy id).run w).1 = .ok .completed :=
    eq_ok_of_reaches hdetermined hcalls (Step.reaches_continues (b := { b with diff := d }) hvalid
      hwet (StateDiff.hasChanges_eq_false_iff.mpr hd))
  obtain ⟨b', rest, hcourse, hcontinues⟩ := exists_course_of_determine hdetermined
  rw [hresult] at hcontinues
  obtain ⟨hrest, hid, -, -⟩ := hcontinues.atRest hfaithful
  obtain ⟨r, v, hread, hkeeps, -⟩ := hcourse.read hview hrepository hcalls
  rw [hid] at hread
  refine ⟨hresult, r, v, hread, fun t => ?_⟩
  rw [hkeeps.conditions]
  cases hrest with
  | completed hwet hd hsaid => exact (hsaid t).isTrue

/-- A blueprint is completed although its dogus could not be applied before, and although nobody
knows what is said of its components. -/
theorem converges_after_cannotApply :
    let r : Record := ⟨formatVersion, "a", .plain,
      ⟨[⟨.dogusApplied, .fails, Reason.cannotApply, "disk is full", default⟩,
        ⟨.componentsApplied, .unknown, "Paused", "", default⟩]⟩, .empty, [], default⟩
    (((agreeing .empty).runPass .standard "a").run (.holding r)).1 = .ok .completed ∧
      ∃ r' v, (((agreeing .empty).runPass .standard "a").run (.holding r)).2.store.read "a"
          = .ok (r', v) ∧
        ∀ t : ConditionType, r'.conditions.isTrue t = true := by
  intro r
  -- What store it is does not matter for the pass, which is not to be evaluated.
  obtain ⟨s, id, hs, hid, hsole, hclear, b, hload, hb, hwet⟩ : ∃ s id, Stored.holding r = s ∧
      "a" = id ∧ s.store.Sole id ∧ s.Clear ∧ ∃ b, s.store.load id = .ok b ∧ b.id = id ∧
      b.config.dryRun = false :=
    ⟨_, _, rfl, rfl, Stored.sole_holding rfl rfl, Stored.clear_holding r, _,
      Stored.load_holding rfl, rfl, rfl⟩
  rw [hs, hid]
  have hloaded :=
    loadSingle_of_listed (fun _ _ => rfl) (repository_agreeing .empty) hsole.listed hload
  obtain ⟨hsmooth, -⟩ := smooth_agreeing .empty .standard hsole hclear
  subst hb
  refine converges_runPass (fun s => s) (fun s _ => s) (fun _ _ => rfl) (agreeing .empty) rfl
    .standard b.id s b hloaded hwet ?_ fun call hcall => (hsmooth call hcall).flawless
  intro b d hd
  cases hsmooth _ hd
  exact ⟨nofun, nofun, nofun⟩

end Collaborators
end BlueprintControl
