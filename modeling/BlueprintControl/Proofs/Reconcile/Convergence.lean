import BlueprintControl.Proofs.Domain.Diff
import BlueprintControl.Proofs.Domain.Operations
import BlueprintControl.Proofs.Reconcile.Inquiry
import BlueprintControl.Proofs.Reconcile.Mirror

/-!
# Completed means converged

A pass completes a blueprint when there is nothing left to apply, and never otherwise. Which passes
end so is read off the endings of the steps: a step that fails has had a failed call, or has refused
what the diff asks for. What is stored on the way has the `Completed` condition it was loaded with;
only the last step writes it, and finds everything else applied by then.

## Main definitions

* `StateDiff.Converged`, `Blueprint.Converged`: nothing is left to apply.
* `Unimpeded`: everything that a pass needs to complete a blueprint.
* `Step.Ending.Reaches`: a step that only a failed call can keep from its result.
* `Blueprint.Reached`: a blueprint on the way to completion.
* `Honest`: what a repository is handed as completed is converged.

## Main statements

* `Step.reaches_appliesAll`, `Step.AppliesAll.of_ok`: when applying everything succeeds.
* `Step.Proceeds.honest`: a pass hands over nothing as completed that is not converged.
* `Collaborators.completed_runPass`: the passes that complete a blueprint.
-/
namespace BlueprintControl

/-! ## Convergence -/

/-- No entry needs an action. -/
structure StateDiff.Converged (d : StateDiff) : Prop where
  dogus : ∀ e ∈ d.dogus, e.needed = []
  components : ∀ e ∈ d.components, e.needed = []
  config : ∀ e ∈ d.config, e.needed = []

theorem StateDiff.hasChanges_eq_false_iff {d : StateDiff} : d.hasChanges = false ↔ d.Converged := by
  simp only [hasChanges, dogusHaveChanges, componentsHaveChanges, configHasChanges,
    Bool.or_eq_false_iff, anyChanges_eq_false_iff]
  exact ⟨fun ⟨⟨hd, hc⟩, hk⟩ => ⟨hd, hc, hk⟩, fun h => ⟨⟨h.dogus, h.components⟩, h.config⟩⟩

/-- The diff asks for nothing, and everything is reported as applied. -/
structure Blueprint.Converged (b : Blueprint) : Prop where
  diff : b.diff.Converged
  applied : ∀ t, t ≠ .completed → b.conditions.Shows t .holds Reason.applied

/-- Everything that a pass needs to complete a blueprint: nothing fails, the actions are allowed,
and there is nothing to do. -/
structure Unimpeded (policy : ActionPolicy) (id : String) (b : Blueprint) (d : StateDiff)
    (calls : List Call) : Prop where
  listed : ∃ ids, .list (.ok ids) ∈ calls ∧ ids.length ≤ 1
  loaded : .load id (.ok b) ∈ calls
  determined : .determine b (.ok d) ∈ calls
  flawless : ∀ call ∈ calls, call.failure? = none
  valid : policy.validate d b.config.allowNamespaceSwitch = .ok ()
  not_dryRun : b.config.dryRun = false
  converged : d.Converged

namespace Step

variable {σ α : Type} {c : Collaborators σ} {b b' : Blueprint} {calls : List Call}

/-! ## Steps that cannot but succeed -/

/-- The step comes to this result if no call fails. -/
def Ending.Reaches (Q : Ending α) (a : α) : Prop :=
  ∀ r calls b', Q r calls b' → (∀ call ∈ calls, call.failure? = none) → r = .ok a

theorem Ending.Reaches.seq {first : Ending Unit} {second : Blueprint → Ending α} {a : α}
    (hfirst : first.Reaches ())
    (hsecond : ∀ calls b₁, first (.ok ()) calls b₁ → (second b₁).Reaches a) :
    (first.Then second).Reaches a := by
  intro r calls b' h hcalls
  cases h with
  | stopped h => cases hfirst _ _ _ h hcalls
  | continued h h' =>
    exact hsecond _ _ h _ _ _ h' fun call hc => hcalls call (List.mem_append_right _ hc)

theorem reaches_saves : (Saves c b).Reaches () := by
  rintro r calls b' h hcalls
  cases h with
  | stored h => rfl
  | failed f => cases hcalls _ List.mem_cons_self

theorem reaches_checksHealth : (ChecksHealth c b).Reaches () := by
  rintro r calls b' h hcalls
  cases h with
  | healthy => rfl
  | unhealthy h h' => cases hcalls _ List.mem_cons_self
  | unknown h => cases hcalls _ List.mem_cons_self

theorem eq_ok_of_failure? {axis : Axis} {d : StateDiff} {answer : Except Failure Unit}
    (h : (axis.applyCall d answer).failure? = none) : answer = .ok () := by
  cases answer with
  | ok _ => rfl
  | error f => cases axis <;> cases h

theorem reaches_applies (axis : Axis) : (Applies c b axis).Reaches () := by
  rintro r calls b' h hcalls
  cases h with
  | told answer now h =>
    obtain rfl := eq_ok_of_failure? (hcalls _ List.mem_cons_self)
    rw [reaches_saves _ _ _ h fun call hc => hcalls call (List.mem_cons_of_mem _ hc)]
    rfl
  | silent _ now h h' => exact eq_ok_of_failure? (hcalls _ List.mem_cons_self)

theorem reaches_configures : (Configures c b).Reaches () := by
  rintro r calls b' h hcalls
  cases h with
  | applied now h =>
    exact reaches_saves _ _ _ h fun call hc => hcalls call (List.mem_cons_of_mem _ hc)
  | failed f now h => cases hcalls _ List.mem_cons_self

theorem reaches_appliesConfig : (AppliesConfig c b).Reaches () := by
  rintro r calls b' h hcalls
  cases h with
  | converged h now => rfl
  | needed h now h' =>
    exact reaches_saves.seq (fun _ _ _ => reaches_configures) _ _ _ h' hcalls

theorem reaches_finishes : (Finishes c b false).Reaches .completed := by
  rintro r calls b' h hcalls
  cases h with
  | changed h => cases h
  | completed h now h' =>
    rw [reaches_saves _ _ _ h' hcalls]
    rfl

/-- Without changes and without failures the blueprint is completed. -/
theorem reaches_appliesAll (hb : b.diff.hasChanges = false) :
    (AppliesAll c b).Reaches .completed := by
  refine reaches_checksHealth.seq fun _ b₀ h => ?_
  -- Whether there are changes is settled here, whatever later updates give back.
  rw [h.eq_of_ok.2, hb]
  exact (reaches_applies _).seq fun _ _ _ => (reaches_applies _).seq fun _ _ _ =>
    reaches_appliesConfig.seq fun _ _ _ => reaches_finishes

/-! ## Steps that succeed -/

/-- An axis that was applied is reported as applied, and this is stored or there is no need to. -/
theorem Applies.of_ok {axis : Axis} (h : Applies c b axis (.ok ()) calls b') :
    ∃ now, b' = (b.completeApply axis none now).blueprint ∨
      ∃ more, Saves c (b.completeApply axis none now).blueprint (.ok ()) more b' := by
  generalize hr : (.ok () : Except Failure Unit) = r at h
  cases h with
  | @told answer now r calls b' h =>
    cases r with
    | ok _ =>
      obtain rfl : answer = .ok () := hr.symm
      exact ⟨now, .inr ⟨_, h⟩⟩
    | error f => cases hr
  | silent _ now h h' =>
    cases hr
    exact ⟨now, .inl rfl⟩

theorem Finishes.of_ok {hadChanges : Bool} {outcome : Outcome}
    (h : Finishes c b hadChanges (.ok outcome) calls b') :
    outcome = .completed ∧ hadChanges = false ∧
      ∃ now, Saves c (b.complete now).blueprint (.ok ()) calls b' := by
  generalize hr : (.ok outcome : Except Failure Outcome) = r at h
  cases h with
  | changed h h' => exact absurd hr.symm (h'.ne_ok outcome)
  | @completed h now r calls b' h' =>
    cases r with
    | ok _ => exact ⟨by cases hr; rfl, h, now, h'⟩
    | error f => cases hr

/-- Applying everything succeeds only if there was nothing to apply. -/
theorem AppliesAll.of_ok {outcome : Outcome} (h : AppliesAll c b (.ok outcome) calls b') :
    outcome = .completed ∧ b.diff.hasChanges = false := by
  obtain ⟨_, _, b₀, -, hhealth, h⟩ := Ending.Then.of_ok h
  obtain ⟨_, _, b₁, -, -, h⟩ := Ending.Then.of_ok h
  obtain ⟨_, _, b₂, -, -, h⟩ := Ending.Then.of_ok h
  obtain ⟨_, _, b₃, -, -, h⟩ := Ending.Then.of_ok h
  obtain ⟨houtcome, hchanges, -⟩ := h.of_ok
  rw [← hhealth.eq_of_ok.2]
  exact ⟨houtcome, hchanges⟩

end Step

/-! ## On the way to completion -/

/-- A blueprint that is not completed yet. It has this diff, and reports these types as applied. -/
structure Blueprint.Reached (d : StateDiff) (ts : List ConditionType) (b : Blueprint) : Prop where
  diff : b.diff = d
  shown : ∀ t ∈ ts, b.conditions.Shows t .holds Reason.applied
  incomplete : b.isCompleted = false

namespace Blueprint

variable {b b' : Blueprint} {d : StateDiff} {ts : List ConditionType} {t : ConditionType}
  {message : String} {now : Stamp} {o : Operation}

theorem isCompleted_set {s : Status} {reason : String} (ht : t ≠ .completed)
    (hc : b'.conditions = b.conditions.set t s reason message now) :
    b'.isCompleted = b.isCompleted := by
  simp only [isCompleted, Conditions.isTrue, hc, Conditions.find?_set_of_ne ht.symm]

/-- Only one operation completes a blueprint. -/
theorem isCompleted_perform (b : Blueprint) (now : Stamp) (ho : o ≠ .complete) :
    (b.perform now o).blueprint.isCompleted = b.isCompleted := by
  cases change_perform b now o with
  | kept new hdrain hc hp hn => simp only [isCompleted, hc]
  | wrote t s reason message new hdrain ht hs hc hp hn => exact isCompleted_set ht hc
  | completed message hc hp => exact absurd rfl ho
  | drained hc hp => simp only [isCompleted, hc]

theorem isCompleted_evaluated (b : Blueprint) (error : Option String) (now now' : Stamp) :
    (b.evaluated error now now').isCompleted = b.isCompleted := by
  have hcomponents := isCompleted_perform (b.perform now (.evaluate .dogus error)).blueprint now'
    (o := .evaluate .components error) nofun
  exact hcomponents.trans (isCompleted_perform b now nofun)

/-- One more type is applied. -/
theorem Reached.applied (h : b.Reached d ts) (ht : t ≠ .completed) (hd : b'.diff = b.diff)
    (hc : b'.conditions = b.conditions.set t .holds Reason.applied message now) :
    b'.Reached d (t :: ts) where
  diff := hd.trans h.diff
  shown u hu := by
    by_cases hut : u = t
    · subst hut
      exact hc ▸ Conditions.shows_set
    · exact hc ▸ (Conditions.shows_set_of_ne hut).mpr
        (h.shown u ((List.mem_cons.mp hu).resolve_left hut))
  incomplete := (isCompleted_set ht hc).trans h.incomplete

theorem Reached.finishConfig (h : b.Reached d ts) (now : Stamp) :
    (b.finishConfig now).blueprint.Reached d (.configApplied :: ts) :=
  h.applied nofun (by simp [Blueprint.finishConfig]) (conditions_transition ..)

/-- Starting with the config takes back only what is said about the config. -/
theorem Reached.startConfig (h : b.Reached d ts) (hts : .configApplied ∉ ts) (now : Stamp) :
    (b.startConfig now).blueprint.Reached d ts where
  diff := by simpa [Blueprint.startConfig] using h.diff
  shown u hu := by
    have hne : u ≠ .configApplied := fun heq => hts (heq ▸ hu)
    simp only [Blueprint.startConfig, conditions_transition]
    exact (Conditions.shows_set_of_ne hne).mpr (h.shown u hu)
  incomplete := (b.isCompleted_perform now (o := .startConfig) nofun).trans h.incomplete

/-- If nothing has to be applied and all is reported as applied, completing it is right. -/
theorem Reached.complete (h : b.Reached d ts) (hd : d.Converged)
    (hts : ∀ t, t ≠ .completed → t ∈ ts) (now : Stamp) : (b.complete now).blueprint.Converged where
  diff := by simpa [Blueprint.complete, h.diff] using hd
  applied t ht := by
    simp only [Blueprint.complete, conditions_transition]
    exact (Conditions.shows_set_of_ne ht).mpr (h.shown t (hts t ht))

end Blueprint

/-- What a repository is handed as completed is converged. -/
def Honest (calls : List Call) : Prop :=
  ∀ u answer, .update u answer ∈ calls → u.isCompleted = true → u.Converged

theorem honest_nil : Honest [] := fun _ _ h => absurd h List.not_mem_nil

theorem Honest.cons {call : Call} {calls : List Call} (h : Honest calls)
    (hcall : call.updated? = none) : Honest (call :: calls) := by
  intro u answer hu
  obtain rfl | hmem := List.mem_cons.mp hu
  · cases hcall
  · exact h u answer hmem

namespace Step

variable {σ α : Type} {c : Collaborators σ} {b b' : Blueprint} {calls : List Call}
  {d : StateDiff} {ts : List ConditionType}

theorem Ending.Then.honest {first : Ending Unit} {second : Blueprint → Ending α}
    {r : Except Failure α} (h : first.Then second r calls b')
    (hfirst : ∀ r calls b', first r calls b' → Honest calls)
    (hsecond : ∀ before b₁ r calls b', first (.ok ()) before b₁ → second b₁ r calls b' →
      Honest calls) : Honest calls := by
  cases h with
  | stopped h => exact hfirst _ _ _ h
  | continued h h' =>
    intro u answer hu
    exact (List.mem_append.mp hu).elim (hfirst _ _ _ h u answer) (hsecond _ _ _ _ _ h h' u answer)

/-- Storing hands over the blueprint as it is. -/
theorem Saves.honest (hb : b.isCompleted = true → b.Converged) {r : Except Failure Unit}
    (h : Saves c b r calls b') : Honest calls := by
  intro u answer hu
  cases h <;> cases List.mem_singleton.mp hu <;> exact hb

theorem Refuses.honest (hb : b.isCompleted = false) {f : Failure} {r : Except Failure α}
    (h : Refuses c b f r calls b') : Honest calls := by
  intro u answer hu hcompleted
  cases h <;> cases List.mem_singleton.mp hu <;> rw [hb] at hcompleted <;> cases hcompleted

theorem Saves.honest_of_incomplete (hb : b.isCompleted = false) {r : Except Failure Unit}
    (h : Saves c b r calls b') : Honest calls :=
  h.honest fun hcompleted => by rw [hb] at hcompleted; cases hcompleted

theorem Determines.honest (hb : b.isCompleted = false) {r : Except Failure Unit}
    (h : Determines c b r calls b') : Honest calls := by
  cases h with
  | known d => exact honest_nil.cons rfl
  | unknown f now now' h =>
    exact (h.honest ((b.isCompleted_evaluated _ now now').trans hb)).cons rfl

theorem ChecksActions.honest {policy : ActionPolicy} (hb : b.isCompleted = false)
    {r : Except Failure Unit} (h : ChecksActions c b policy r calls b') : Honest calls := by
  cases h with
  | allowed h => exact honest_nil
  | denied h h' => exact Refuses.honest (show (b.rejectActions _).isCompleted = false from hb) h'

theorem ChecksHealth.honest (hb : b.isCompleted = false) {r : Except Failure Unit}
    (h : ChecksHealth c b r calls b') : Honest calls := by
  cases h with
  | healthy => exact honest_nil.cons rfl
  | unhealthy h h' =>
    exact (Refuses.honest (show (b.rejectUnhealthy _).isCompleted = false from hb) h').cons rfl
  | unknown h => exact honest_nil.cons rfl

theorem Applies.honest {axis : Axis} (hb : b.isCompleted = false) {r : Except Failure Unit}
    (h : Applies c b axis r calls b') : Honest calls := by
  have hcall : ∀ answer, (axis.applyCall b.diff answer).updated? = none := by
    cases axis <;> exact fun _ => rfl
  cases h with
  | told answer now h =>
    have hb' := b.isCompleted_perform now (o := .completeApply axis (errorOf answer)) nofun
    exact (h.honest_of_incomplete (hb'.trans hb)).cons (hcall answer)
  | silent _ now h h' => exact honest_nil.cons (hcall _)

theorem Configures.honest (hb : b.isCompleted = false) {r : Except Failure Unit}
    (h : Configures c b r calls b') : Honest calls := by
  cases h with
  | applied now h =>
    have hb' := b.isCompleted_perform now (o := .finishConfig) nofun
    exact (h.honest_of_incomplete (hb'.trans hb)).cons rfl
  | failed f now h =>
    have hb' := b.isCompleted_perform now (o := .failConfig f.message) nofun
    exact (h.honest (hb'.trans hb)).cons rfl

section Faithful

variable (hc : c.repository.Faithful)
include hc

theorem Saves.reached (hb : b.Reached d ts) (h : Saves c b (.ok ()) calls b') :
    b'.Reached d ts := by
  cases h with
  | stored h =>
    obtain ⟨v, rfl⟩ := hc _ _ _ _ h
    exact ⟨hb.diff, hb.shown, hb.incomplete⟩

theorem Applies.reached {axis : Axis} (hb : b.Reached d ts)
    (h : Applies c b axis (.ok ()) calls b') : b'.Reached d (axis.conditionType :: ts) := by
  have happlied : ∀ now,
      (b.completeApply axis none now).blueprint.Reached d (axis.conditionType :: ts) := fun now =>
    hb.applied (by cases axis <;> decide) (by simp) (Blueprint.conditions_transition ..)
  obtain ⟨now, rfl | ⟨more, hsaved⟩⟩ := h.of_ok
  · exact happlied now
  · exact hsaved.reached hc (happlied now)

theorem Configures.reached (hb : b.Reached d ts) (h : Configures c b (.ok ()) calls b') :
    b'.Reached d (.configApplied :: ts) := by
  cases h with
  | applied now h => exact h.reached hc (hb.finishConfig now)
  | failed f now h => exact absurd rfl (h.ne_ok ())

theorem AppliesConfig.reached (hb : b.Reached d ts) (hts : .configApplied ∉ ts)
    (h : AppliesConfig c b (.ok ()) calls b') : b'.Reached d (.configApplied :: ts) := by
  cases h with
  | converged h now => exact hb.finishConfig now
  | needed h now h' =>
    obtain ⟨_, _, b₁, -, hsaved, h'⟩ := Ending.Then.of_ok h'
    exact h'.reached hc (hsaved.reached hc (hb.startConfig hts now))

theorem AppliesConfig.honest (hb : b.Reached d ts) (hts : .configApplied ∉ ts)
    {r : Except Failure Unit} (h : AppliesConfig c b r calls b') : Honest calls := by
  cases h with
  | converged h now => exact honest_nil
  | needed h now h' =>
    have hstarted := hb.startConfig hts now
    refine Ending.Then.honest h' (fun _ _ _ h => ?_) fun _ _ _ _ _ h h' => ?_
    · exact h.honest_of_incomplete hstarted.incomplete
    · exact h'.honest (h.reached hc hstarted).incomplete

omit hc in
/-- What is handed over last is completed if there was nothing to apply. -/
theorem Finishes.honest (hb : b.Reached d ts) (hts : ∀ t, t ≠ .completed → t ∈ ts)
    {r : Except Failure Outcome} (h : Finishes c b d.hasChanges r calls b') : Honest calls := by
  cases h with
  | changed h h' => exact h'.honest hb.incomplete
  | completed h now h' =>
    exact h'.honest fun _ => hb.complete (StateDiff.hasChanges_eq_false_iff.mp h) hts now

/-- Each step reports one more type as applied, and the last one completes the blueprint. -/
theorem AppliesAll.honest (hb : b.isCompleted = false) {r : Except Failure Outcome}
    (h : AppliesAll c b r calls b') : Honest calls := by
  refine Ending.Then.honest h (fun _ _ _ h => h.honest hb) fun _ b₀ _ _ _ hhealth hafter => ?_
  obtain rfl : b = b₀ := hhealth.eq_of_ok.2.symm
  have hb₀ : b.Reached b.diff [] := ⟨rfl, nofun, hb⟩
  refine Ending.Then.honest hafter (fun _ _ _ h => h.honest hb) fun _ b₁ _ _ _ h hafter => ?_
  have hb₁ := h.reached hc hb₀
  refine Ending.Then.honest hafter (fun _ _ _ h => h.honest hb₁.incomplete)
    fun _ b₂ _ _ _ h hafter => ?_
  have hb₂ := h.reached hc hb₁
  have hts : .configApplied ∉ [Axis.dogus.conditionType, Axis.components.conditionType] := by
    decide
  refine Ending.Then.honest hafter (fun _ _ _ h => h.honest hc hb₂ hts)
    fun _ b₃ _ _ _ h hfinishes => ?_
  -- Components, dogus and config are all types but the one that is written last.
  refine Finishes.honest (h.reached hc hb₂ hts) (fun t ht => ?_) hfinishes
  cases t <;> first | decide | exact absurd rfl ht

theorem Evaluates.honest (hb : b.isCompleted = false) {r : Except Failure Outcome}
    (h : Evaluates c b r calls b') : Honest calls := by
  cases h with
  | dryRun h now now' h' =>
    exact h'.honest_of_incomplete ((b.isCompleted_evaluated none now now').trans hb)
  | applied h now now' h' =>
    exact h'.honest hc ((b.isCompleted_evaluated none now now').trans hb)

theorem Proceeds.honest {policy : ActionPolicy} (hb : b.isCompleted = false)
    {r : Except Failure Outcome} (h : Proceeds c b policy r calls b') : Honest calls := by
  refine Ending.Then.honest h (fun _ _ _ h => h.honest hb) fun _ b₀ _ _ _ h hafter => ?_
  have hb₀ : b₀.isCompleted = false := by
    obtain ⟨d, -, rfl⟩ := h.eq_of_ok
    exact hb
  refine Ending.Then.honest hafter (fun _ _ _ h => h.honest hb₀) fun _ b₁ _ _ _ h hevaluates => ?_
  obtain rfl : b₀ = b₁ := h.eq_of_ok.2.1.symm
  exact Evaluates.honest hc hb₀ hevaluates

end Faithful

/-! ## What follows on a diff that is known -/

section Valid

variable {policy : ActionPolicy}
  (hvalid : policy.validate b.diff b.config.allowNamespaceSwitch = .ok ())
include hvalid

theorem reaches_checksActions : (ChecksActions c b policy).Reaches () := by
  rintro r calls b' h hcalls
  cases h with
  | allowed h => rfl
  | denied h h' =>
    rw [hvalid] at h
    cases h

/-- A permitted diff without changes leads to completion, if no call fails. -/
theorem reaches_continues (hwet : b.config.dryRun = false) (hd : b.diff.hasChanges = false) :
    (Continues c policy b).Reaches .completed := by
  refine (reaches_checksActions hvalid).seq fun _ b₁ h => ?_
  obtain rfl : b = b₁ := h.eq_of_ok.2.1.symm
  rintro r calls b' h hcalls
  cases h with
  | dryRun h now now' h' => rw [hwet] at h; cases h
  | applied h now now' h' => exact reaches_appliesAll (by simpa using hd) _ _ _ h' hcalls

/-- In dry run a permitted diff is evaluated, if no call fails. -/
theorem reaches_continues_of_dryRun (hdry : b.config.dryRun = true) :
    (Continues c policy b).Reaches .dryRun := by
  refine (reaches_checksActions hvalid).seq fun _ b₁ h => ?_
  obtain rfl : b = b₁ := h.eq_of_ok.2.1.symm
  rintro r calls b' h hcalls
  cases h with
  | dryRun h now now' h' =>
    rw [reaches_saves _ _ _ h' hcalls]
    rfl
  | applied h now now' h' => rw [hdry] at h; cases h

end Valid

/-- Success means dry run, or that there was nothing to do. -/
theorem Continues.of_ok {policy : ActionPolicy} {outcome : Outcome}
    (h : Continues c policy b (.ok outcome) calls b') :
    policy.validate b.diff b.config.allowNamespaceSwitch = .ok () ∧
      (b.config.dryRun = true ∧ outcome = .dryRun ∨
        b.config.dryRun = false ∧ outcome = .completed ∧ b.diff.Converged) := by
  obtain ⟨_, _, b₁, -, hchecked, hevaluated⟩ := Ending.Then.of_ok h
  obtain ⟨-, rfl, hpermits⟩ := hchecked.eq_of_ok
  refine ⟨ActionPolicy.validate_eq_ok_iff.mpr hpermits, ?_⟩
  generalize hr : (.ok outcome : Except Failure Outcome) = r at hevaluated
  cases hevaluated with
  | @dryRun hdry now now' r calls b' h' =>
    cases r with
    | ok _ => exact .inl ⟨hdry, by cases hr; rfl⟩
    | error f => cases hr
  | applied hwet now now' h' =>
    subst hr
    obtain ⟨houtcome, hd⟩ := h'.of_ok
    exact .inr ⟨hwet, houtcome, StateDiff.hasChanges_eq_false_iff.mp (by simpa using hd)⟩

end Step

namespace Collaborators

variable {σ : Type} {c : Collaborators σ} {policy : ActionPolicy} {id : String}
  {r : Except Failure Outcome} {calls : List Call}

/-- A pass that succeeds has determined a diff. -/
theorem Passes.exists_determine {outcome : Outcome} (h : c.Passes policy id (.ok outcome) calls) :
    ∃ b d, .determine b (.ok d) ∈ calls := by
  cases h with
  | loaded h b h' =>
    obtain ⟨answer, rest, rfl, -, ⟨f, g, -, hg⟩ | ⟨d, rfl, -⟩⟩ := h'.split
    · cases hg
    · exact ⟨b, d, by simp⟩

/-- No call of a pass that succeeds has failed. -/
theorem Passes.flawless {outcome : Outcome} (h : c.Passes policy id (.ok outcome) calls) :
    ∀ call ∈ calls, call.failure? = none := by
  obtain ⟨b, d, hd⟩ := h.exists_determine
  obtain ⟨ids, rest, b', -, rfl, hcontinues⟩ := h.of_determine hd
  simpa [Call.failure?, Call.failure?.failed] using hcontinues.safe.succeeded _ rfl

/-- A pass completes its blueprint exactly if nothing keeps it from doing so. -/
theorem Passes.completed_iff (h : c.Passes policy id r calls) :
    r = .ok .completed ↔ ∃ b d, Unimpeded policy id b d calls := by
  constructor
  · rintro rfl
    have hflawless := h.flawless
    obtain ⟨b, d, hd⟩ := h.exists_determine
    obtain ⟨ids, rest, b', hids, rfl, hcontinues⟩ := h.of_determine hd
    obtain ⟨hvalid, ⟨-, hdry⟩ | ⟨hwet, -, hconverged⟩⟩ := hcontinues.of_ok
    · cases hdry
    exact ⟨b, d, ⟨ids, by simp, hids⟩, by simp, by simp, hflawless, hvalid, hwet, hconverged⟩
  · rintro ⟨b, d, hun⟩
    obtain ⟨ids, rest, b', hids, rfl, hcontinues⟩ := h.of_determine hun.determined
    refine Step.reaches_continues (b := { b with diff := d }) hun.valid hun.not_dryRun
      (StateDiff.hasChanges_eq_false_iff.mpr hun.converged) _ _ _ hcontinues fun call hc => ?_
    exact hun.flawless call (by simp [hc])

/-- **Completed means converged.** A pass completes its blueprint exactly if nothing fails, no more
than one blueprint is listed, the actions are allowed, and a diff without changes is to be applied.
Outside dry run a pass with changes never succeeds. If the repository is faithful, a blueprint that
is handed to it as newly completed is converged. -/
theorem completed_runPass (c : Collaborators σ) (policy : ActionPolicy) (id : String) (s : σ) :
    let result := ((c.runPass policy id).run s).1
    let calls := ((c.traced.runPass policy id).run ⟨s, []⟩).2.calls
    (result = .ok .completed ↔ ∃ b d, Unimpeded policy id b d calls) ∧
    (∀ b d outcome, .determine b (.ok d) ∈ calls → b.config.dryRun = false →
      d.hasChanges = true → result ≠ .ok outcome) ∧
    (c.repository.Faithful → ∀ b u answer, .load id (.ok b) ∈ calls → .update u answer ∈ calls →
      b.isCompleted = false → u.isCompleted = true → u.Converged) := by
  intro result calls
  have hpasses : c.Passes policy id result calls := by
    have hresult : result = ((c.traced.runPass policy id).run ⟨s, []⟩).1 :=
      congrArg Prod.fst (c.mirrors_runPass policy id ⟨s, []⟩)
    exact hresult ▸ c.passes_runPass policy id s
  refine ⟨hpasses.completed_iff, fun b d outcome hd hwet hchanges hok => ?_,
    fun hc b u answer hl hu hb hcompleted => ?_⟩
  · rw [hok] at hpasses
    obtain ⟨ids, rest, b', -, -, hcontinues⟩ := hpasses.of_determine hd
    obtain ⟨-, ⟨hdry, -⟩ | ⟨-, -, hconverged⟩⟩ := hcontinues.of_ok
    · exact absurd (hwet.symm.trans hdry) nofun
    · exact absurd (hchanges.symm.trans (StateDiff.hasChanges_eq_false_iff.mpr hconverged)) nofun
  · obtain ⟨ids, more, b', hcalls, hproceeds⟩ := hpasses.of_load hl
    rw [hcalls] at hu
    exact hproceeds.honest hc hb u answer (by simpa using hu) hcompleted

/-- A pass without changes completes its blueprint, and one with changes does not. -/
theorem completed_of_rehearsal :
    let stored : Blueprint := { Blueprint.fresh "a" .plain with version := some ⟨"0"⟩ }
    let s : Rehearsal := ⟨Keyed.empty.put "a" stored, [], 1, .ok ["a"], none, fun _ => none,
      fun _ => .smooth default fun _ => default⟩
    let c (d : StateDiff) : Collaborators Rehearsal := ⟨Rehearsal.repository, ⟨fun _ => return d⟩,
      ⟨fun _ => return (), fun _ => return (), fun _ => return (), fun _ => return ()⟩,
      fun s => (default, s)⟩
    let calls (d : StateDiff) := (((c d).traced.runPass .standard "a").run ⟨s, []⟩).2.calls
    let d : StateDiff := ⟨[⟨"official/ldap", default, default, [.install]⟩], [], []⟩
    (∃ u answer, .update u answer ∈ calls .empty ∧ u.isCompleted = true ∧ u.Converged) ∧
      ∀ outcome, (((c d).runPass .standard "a").run s).1 ≠ .ok outcome := by
  intro stored s c calls d
  constructor
  · have hany : (calls .empty).any (fun call => call.updated?.any Blueprint.isCompleted)
        = true := by decide
    obtain ⟨call, hcall, hupdated⟩ := List.any_eq_true.mp hany
    cases call with
    | update u answer =>
      have hload : .load "a" (.ok stored) ∈ calls .empty := List.mem_of_getElem? (i := 1) rfl
      exact ⟨u, answer, hcall, hupdated, ((c .empty).completed_runPass .standard "a" s).2.2
        Rehearsal.faithful_repository stored u answer hload hcall rfl hupdated⟩
    | _ => cases hupdated
  · intro outcome
    have hdetermine : .determine stored (.ok d) ∈ calls d := List.mem_of_getElem? (i := 2) rfl
    exact ((c d).completed_runPass .standard "a" s).2.1 stored d outcome hdetermine rfl rfl

end Collaborators
end BlueprintControl
