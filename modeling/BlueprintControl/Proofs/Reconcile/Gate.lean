import BlueprintControl.Proofs.Policy.Actions
import BlueprintControl.Proofs.Reconcile.Calls
import BlueprintControl.Proofs.Reconcile.Repository

/-!
# Nothing is applied behind a closed gate

A pass asks the executor to change the ecosystem only after everything that could forbid it has
been looked at, and not after a failure. This is shown of the endings of the steps: endings that
are `Safe` can follow one another.

## Main definitions

* `Guarded`: nothing is applied after a failure.
* `FromDiff`: what is applied is what a state diff lists.
* `Opened`: everything that could forbid to apply has been looked at.

## Main statements

* `Step.Proceeds.safe`: a step that succeeds has had no failure, and no step applies after one.
* `Collaborators.gated_runPass`: the calls of a pass.
-/
namespace BlueprintControl

/-! ## Calls that change nothing -/

/-- The ecosystem is not asked to change. -/
def Quiet (calls : List Call) : Prop := ∀ call ∈ calls, call.isApply = false

/-- Nothing is applied after a failure. -/
def Guarded (calls : List Call) : Prop :=
  calls.Pairwise fun earlier later => later.isApply = true → earlier.failure? = none

/-- Nothing is applied after a failure, and a step in which a call has failed does not succeed. -/
structure Safe {α : Type} (r : Except Failure α) (calls : List Call) : Prop where
  guarded : Guarded calls
  succeeded : ∀ a, r = .ok a → ∀ call ∈ calls, call.failure? = none

/-- What is applied is what a state diff lists, and the config only if it needs an action. -/
structure FromDiff (d : StateDiff) (calls : List Call) : Prop where
  components : ∀ ds answer, .applyComponents ds answer ∈ calls → ds = d.components
  dogus : ∀ ds answer, .applyDogus ds answer ∈ calls → ds = d.dogus
  config : ∀ ds answer, .applyConfig ds answer ∈ calls →
    ds = d.config ∧ d.configHasChanges = true

section Lists

variable {calls more : List Call} {d : StateDiff}

theorem Quiet.guarded (h : Quiet calls) : Guarded calls := by
  refine List.pairwise_of_forall_mem_list fun earlier _ later hl ha => ?_
  rw [h later hl] at ha
  cases ha

theorem Quiet.filter_eq_nil (h : Quiet calls) : calls.filter Call.isApply = [] :=
  List.filter_eq_nil_iff.mpr fun call hc => by simp [h call hc]

theorem Quiet.fromDiff (h : Quiet calls) (d : StateDiff) : FromDiff d calls where
  components _ _ hc := nomatch h _ hc
  dogus _ _ hc := nomatch h _ hc
  config _ _ hc := nomatch h _ hc

theorem Quiet.append (h : Quiet calls) (h' : Quiet more) : Quiet (calls ++ more) :=
  fun call hc => (List.mem_append.mp hc).elim (h call) (h' call)

theorem FromDiff.append (h : FromDiff d calls) (h' : FromDiff d more) :
    FromDiff d (calls ++ more) where
  components ds a hc := (List.mem_append.mp hc).elim (h.components ds a) (h'.components ds a)
  dogus ds a hc := (List.mem_append.mp hc).elim (h.dogus ds a) (h'.dogus ds a)
  config ds a hc := (List.mem_append.mp hc).elim (h.config ds a) (h'.config ds a)

theorem Guarded.append (h : Guarded calls) (h' : Guarded more)
    (hs : ∀ call ∈ calls, call.failure? = none) : Guarded (calls ++ more) :=
  List.pairwise_append.mpr ⟨h, h', fun call hc _ _ _ => hs call hc⟩

/-- Quiet calls can follow any call. -/
theorem Quiet.guarded_cons (h : Quiet calls) (call : Call) : Guarded (call :: calls) := by
  refine List.pairwise_cons.mpr ⟨fun later hl ha => ?_, h.guarded⟩
  rw [h later hl] at ha
  cases ha

end Lists

namespace Step

variable {σ α : Type} {c : Collaborators σ} {b b' : Blueprint} {calls : List Call}

/-! ## Quiet steps -/

theorem Saves.quiet {r : Except Failure Unit} (h : Saves c b r calls b') : Quiet calls :=
  h.forall_mem fun _ _ => rfl

theorem Refuses.quiet {f : Failure} {r : Except Failure α} (h : Refuses c b f r calls b') :
    Quiet calls :=
  h.forall_mem fun _ _ => rfl

theorem Refuses.ne_ok {f : Failure} {r : Except Failure α} (h : Refuses c b f r calls b') (a : α) :
    r ≠ .ok a := by
  cases h <;> simp

theorem Determines.quiet {r : Except Failure Unit} (h : Determines c b r calls b') :
    Quiet calls :=
  h.forall_mem (fun _ _ => rfl) fun _ => rfl

theorem ChecksActions.quiet {policy : ActionPolicy} {r : Except Failure Unit}
    (h : ChecksActions c b policy r calls b') : Quiet calls :=
  h.forall_mem fun _ _ => rfl

theorem ChecksHealth.quiet {r : Except Failure Unit} (h : ChecksHealth c b r calls b') :
    Quiet calls :=
  h.forall_mem (fun _ _ => rfl) fun _ => rfl

theorem Finishes.quiet {hadChanges : Bool} {r : Except Failure Outcome}
    (h : Finishes c b hadChanges r calls b') : Quiet calls :=
  h.forall_mem fun _ _ => rfl

/-! ## Safe steps -/

theorem Ending.Then.safe {first : Ending Unit} {second : Blueprint → Ending α}
    {r : Except Failure α} (h : first.Then second r calls b')
    (hfirst : ∀ r calls b', first r calls b' → Safe r calls)
    (hsecond : ∀ b r calls b', second b r calls b' → Safe r calls) : Safe r calls := by
  cases h with
  | stopped h => exact ⟨(hfirst _ _ _ h).guarded, nofun⟩
  | continued h h' =>
    have hs := hfirst _ _ _ h
    have hs' := hsecond _ _ _ _ h'
    refine ⟨hs.guarded.append hs'.guarded (hs.succeeded () rfl), fun a ha call hc => ?_⟩
    exact (List.mem_append.mp hc).elim (hs.succeeded () rfl call) (hs'.succeeded a ha call)

theorem Saves.safe {r : Except Failure Unit} (h : Saves c b r calls b') : Safe r calls := by
  refine ⟨h.quiet.guarded, ?_⟩
  cases h <;> simp [Call.failure?, Call.failure?.failed]

/-- What is made of the result does not matter. -/
theorem Saves.safe_map {r : Except Failure Unit} (h : Saves c b r calls b') (f : Unit → α) :
    Safe (r.map f) calls := by
  refine ⟨h.quiet.guarded, fun a ha => ?_⟩
  cases r with
  | ok _ => exact h.safe.succeeded () rfl
  | error f => cases ha

theorem Refuses.safe {f : Failure} {r : Except Failure α} (h : Refuses c b f r calls b') :
    Safe r calls :=
  ⟨h.quiet.guarded, fun a ha => absurd ha (h.ne_ok a)⟩

theorem Determines.safe {r : Except Failure Unit} (h : Determines c b r calls b') :
    Safe r calls := by
  refine ⟨h.quiet.guarded, ?_⟩
  cases h with
  | known d => simp [Call.failure?, Call.failure?.failed]
  | unknown f now now' h => exact fun a ha => absurd ha (h.ne_ok a)

theorem ChecksActions.safe {policy : ActionPolicy} {r : Except Failure Unit}
    (h : ChecksActions c b policy r calls b') : Safe r calls := by
  refine ⟨h.quiet.guarded, ?_⟩
  cases h with
  | allowed h => simp
  | denied h h' => exact fun a ha => absurd ha (h'.ne_ok a)

theorem ChecksHealth.safe {r : Except Failure Unit} (h : ChecksHealth c b r calls b') :
    Safe r calls := by
  refine ⟨h.quiet.guarded, ?_⟩
  cases h with
  | healthy => simp [Call.failure?, Call.failure?.failed]
  | unhealthy h h' => exact fun a ha => absurd ha (h'.ne_ok a)
  | unknown h => exact nofun

/-- What follows an answer is quiet, so it may be a failure. -/
theorem safe_cons {r : Except Failure α} {call : Call} (hq : Quiet calls)
    (hs : ∀ a, r = .ok a → call.failure? = none ∧ ∀ call ∈ calls, call.failure? = none) :
    Safe r (call :: calls) :=
  ⟨hq.guarded_cons call, fun a ha => List.forall_mem_cons.mpr (hs a ha)⟩

theorem Applies.safe {axis : Axis} {r : Except Failure Unit} (h : Applies c b axis r calls b') :
    Safe r calls := by
  have hanswer : ∀ answer : Except Failure Unit, answer = .ok () →
      (axis.applyCall b.diff answer).failure? = none := by
    rintro answer rfl
    cases axis <;> rfl
  cases h with
  | @told answer now r calls _ h =>
    refine safe_cons h.quiet fun a ha => ?_
    cases r with
    | ok _ => exact ⟨hanswer answer ha, h.safe.succeeded () rfl⟩
    | error f => cases ha
  | silent _ now h h' =>
    exact safe_cons (by simp [Quiet]) fun a ha => ⟨hanswer _ ha, by simp⟩

theorem Configures.safe {r : Except Failure Unit} (h : Configures c b r calls b') :
    Safe r calls := by
  cases h with
  | applied now h => exact safe_cons h.quiet fun a ha => ⟨rfl, h.safe.succeeded a ha⟩
  | failed f now h => exact safe_cons h.quiet fun a ha => absurd ha (h.ne_ok a)

theorem AppliesConfig.safe {r : Except Failure Unit} (h : AppliesConfig c b r calls b') :
    Safe r calls := by
  cases h with
  | converged h now => exact ⟨List.Pairwise.nil, by simp⟩
  | needed h now h' => exact h'.safe (fun _ _ _ => Saves.safe) fun _ _ _ _ => Configures.safe

theorem Finishes.safe {hadChanges : Bool} {r : Except Failure Outcome}
    (h : Finishes c b hadChanges r calls b') : Safe r calls := by
  cases h with
  | changed h h' => exact h'.safe
  | completed h now h' => exact h'.safe_map _

theorem AppliesAll.safe {r : Except Failure Outcome} (h : AppliesAll c b r calls b') :
    Safe r calls :=
  Ending.Then.safe h (fun _ _ _ => ChecksHealth.safe) fun _ _ _ _ h =>
    Ending.Then.safe h (fun _ _ _ => Applies.safe) fun _ _ _ _ h =>
      Ending.Then.safe h (fun _ _ _ => Applies.safe) fun _ _ _ _ h =>
        Ending.Then.safe h (fun _ _ _ => AppliesConfig.safe) fun _ _ _ _ => Finishes.safe

theorem Evaluates.safe {r : Except Failure Outcome} (h : Evaluates c b r calls b') :
    Safe r calls := by
  cases h with
  | dryRun h now now' h' => exact h'.safe_map _
  | applied h now now' h' => exact h'.safe

/-- No step applies anything after a failure. -/
theorem Proceeds.safe {policy : ActionPolicy} {r : Except Failure Outcome}
    (h : Proceeds c b policy r calls b') : Safe r calls :=
  Ending.Then.safe h (fun _ _ _ => Determines.safe) fun _ _ _ _ h =>
    Ending.Then.safe h (fun _ _ _ => ChecksActions.safe) fun _ _ _ _ => Evaluates.safe

/-! ## What is applied -/

theorem Applies.filter_eq {axis : Axis} {r : Except Failure Unit}
    (h : Applies c b axis r calls b') :
    ∃ answer, calls.filter Call.isApply = [axis.applyCall b.diff answer] := by
  have hcall : ∀ answer, (axis.applyCall b.diff answer).isApply = true := by
    cases axis <;> exact fun _ => rfl
  cases h with
  | told answer now h =>
    exact ⟨answer, by rw [List.filter_cons_of_pos (hcall _), h.quiet.filter_eq_nil]⟩
  | silent _ now h h' => exact ⟨_, List.filter_cons_of_pos (hcall _)⟩

theorem AppliesConfig.filter_eq {r : Except Failure Unit} (h : AppliesConfig c b r calls b') :
    calls.filter Call.isApply = [] ∨
      ∃ ds answer, calls.filter Call.isApply = [.applyConfig ds answer] := by
  cases h with
  | converged h now => exact .inl rfl
  | needed h now h' =>
    cases h' with
    | stopped h' => exact .inl h'.quiet.filter_eq_nil
    | continued h' h'' =>
      rw [List.filter_append, h'.quiet.filter_eq_nil, List.nil_append]
      refine .inr ?_
      cases h'' with
      | applied now h =>
        exact ⟨_, _, by rw [List.filter_cons_of_pos rfl, h.quiet.filter_eq_nil]⟩
      | failed f now h =>
        exact ⟨_, _, by rw [List.filter_cons_of_pos rfl, h.quiet.filter_eq_nil]⟩

/-- If the first step applies exactly one thing, what the second one applies comes after it. -/
theorem Ending.Then.filter_cons {first : Ending Unit} {second : Blueprint → Ending α}
    {r : Except Failure α} {x : Except Failure Unit → Call} (h : first.Then second r calls b')
    (hfirst : ∀ r calls b', first r calls b' →
      ∃ answer, calls.filter Call.isApply = [x answer]) :
    ∃ answer, calls.filter Call.isApply = [x answer] ∨
      ∃ b₁ more, second b₁ r more b' ∧
        calls.filter Call.isApply = x answer :: more.filter Call.isApply := by
  cases h with
  | stopped h =>
    obtain ⟨answer, ha⟩ := hfirst _ _ _ h
    exact ⟨answer, .inl ha⟩
  | continued h h' =>
    obtain ⟨answer, ha⟩ := hfirst _ _ _ h
    exact ⟨answer, .inr ⟨_, _, h', by rw [List.filter_append, ha, List.singleton_append]⟩⟩

/-- The config comes last. -/
theorem AppliesConfig.isPrefix {r : Except Failure Outcome} {hadChanges : Bool}
    (h : (AppliesConfig c b).Then (fun b => Finishes c b hadChanges) r calls b') :
    ∃ config answer, calls.filter Call.isApply <+: [.applyConfig config answer] := by
  have hconfig : ∀ {r : Except Failure Unit} {calls b'}, AppliesConfig c b r calls b' →
      ∃ config answer, calls.filter Call.isApply <+: [.applyConfig config answer] := by
    intro r calls b' h
    rcases h.filter_eq with hnil | ⟨config, answer, hone⟩
    · exact ⟨[], .ok (), hnil ▸ List.nil_prefix⟩
    · exact ⟨config, answer, hone ▸ List.prefix_rfl⟩
  cases h with
  | stopped h => exact hconfig h
  | continued h h' =>
    rw [List.filter_append, h'.quiet.filter_eq_nil, List.append_nil]
    exact hconfig h

/-- Components come before dogus, and both before the config. -/
theorem AppliesAll.isPrefix {r : Except Failure Outcome} (h : AppliesAll c b r calls b') :
    ∃ components dogus config a₁ a₂ a₃, calls.filter Call.isApply <+:
      [.applyComponents components a₁, .applyDogus dogus a₂, .applyConfig config a₃] := by
  cases h with
  | stopped h =>
    exact ⟨[], [], [], .ok (), .ok (), .ok (), h.quiet.filter_eq_nil ▸ List.nil_prefix⟩
  | @continued _ _ _ b₁ _ hh h =>
    rw [List.filter_append, hh.quiet.filter_eq_nil, List.nil_append]
    obtain ⟨a₁, hone | ⟨b₂, more, h, hmore⟩⟩ :=
      Ending.Then.filter_cons h fun _ _ _ => Applies.filter_eq
    · exact ⟨_, [], [], a₁, .ok (), .ok (), by rw [hone]; exact ⟨_, rfl⟩⟩
    rw [hmore]
    obtain ⟨a₂, hone | ⟨b₃, rest, h, hrest⟩⟩ :=
      Ending.Then.filter_cons h fun _ _ _ => Applies.filter_eq
    · exact ⟨_, _, [], a₁, a₂, .ok (), by rw [hone]; exact ⟨_, rfl⟩⟩
    obtain ⟨config, a₃, hlast⟩ := AppliesConfig.isPrefix h
    rw [hrest]
    refine ⟨b₁.diff.components, b₂.diff.dogus, config, a₁, a₂, a₃, ?_⟩
    exact (List.prefix_cons_inj _).mpr ((List.prefix_cons_inj _).mpr hlast)

/-! ## Whose diff is applied -/

theorem Ending.Then.fromDiff {d : StateDiff} {first : Ending Unit}
    {second : Blueprint → Ending α} {r : Except Failure α} (h : first.Then second r calls b')
    (hfirst : ∀ r calls b', first r calls b' → FromDiff d calls ∧ (r = .ok () → b'.diff = d))
    (hsecond : ∀ b r calls b', b.diff = d → second b r calls b' → FromDiff d calls) :
    FromDiff d calls := by
  cases h with
  | stopped h => exact (hfirst _ _ _ h).1
  | continued h h' =>
    obtain ⟨hd, hb₁⟩ := hfirst _ _ _ h
    exact hd.append (hsecond _ _ _ _ (hb₁ rfl) h')

theorem Determines.eq_of_ok (h : Determines c b (.ok ()) calls b') :
    ∃ d, calls = [.determine b (.ok d)] ∧ b' = { b with diff := d } := by
  cases h with
  | known d => exact ⟨d, rfl, rfl⟩
  | unknown f now now' h => exact absurd rfl (h.ne_ok ())

theorem ChecksActions.eq_of_ok {policy : ActionPolicy}
    (h : ChecksActions c b policy (.ok ()) calls b') :
    calls = [] ∧ b' = b ∧ policy.Permits b.diff b.config.allowNamespaceSwitch := by
  cases h with
  | allowed h => exact ⟨rfl, rfl, ActionPolicy.validate_eq_ok_iff.mp h⟩
  | denied h h' => exact absurd rfl (h'.ne_ok ())

/-- Good health is one call, and leaves the blueprint as it is. -/
theorem ChecksHealth.eq_of_ok (h : ChecksHealth c b (.ok ()) calls b') :
    calls = [.checkHealth b.config (.ok ())] ∧ b' = b := by
  cases h with
  | healthy => exact ⟨rfl, rfl⟩
  | unhealthy h h' => exact absurd rfl (h'.ne_ok ())

section Faithful

variable {d : StateDiff} (hc : c.repository.Faithful) (hb : b.diff = d)
include hc hb

theorem Saves.diff_eq {r : Except Failure Unit} (h : Saves c b r calls b') (hr : r = .ok ()) :
    b'.diff = d := by
  cases h with
  | stored h =>
    obtain ⟨v, rfl⟩ := hc _ _ _ _ h
    exact hb
  | failed f => cases hr

theorem Applies.fromDiff {axis : Axis} {r : Except Failure Unit}
    (h : Applies c b axis r calls b') : FromDiff d calls ∧ (r = .ok () → b'.diff = d) := by
  have hcall : ∀ answer, FromDiff d [axis.applyCall b.diff answer] := by
    intro answer
    cases axis <;> constructor <;> simp [Axis.applyCall, hb]
  cases h with
  | @told answer now r calls _ h =>
    refine ⟨(hcall answer).append (h.quiet.fromDiff d), fun hr => ?_⟩
    cases r with
    | ok _ => exact h.diff_eq hc (by simpa using hb) rfl
    | error f => cases hr
  | silent _ now h h' => exact ⟨hcall _, fun _ => by simpa using hb⟩

theorem Configures.fromDiff (hn : d.configHasChanges = true) {r : Except Failure Unit}
    (h : Configures c b r calls b') : FromDiff d calls ∧ (r = .ok () → b'.diff = d) := by
  have hcall : ∀ answer, FromDiff d [.applyConfig b.diff.config answer] := by
    intro answer
    constructor <;> simp [hb, hn]
  cases h with
  | applied now h =>
    refine ⟨(hcall _).append (h.quiet.fromDiff d), h.diff_eq hc ?_⟩
    simpa [Blueprint.finishConfig] using hb
  | failed f now h =>
    exact ⟨(hcall _).append (h.quiet.fromDiff d), fun hr => absurd hr (h.ne_ok ())⟩

theorem AppliesConfig.fromDiff {r : Except Failure Unit} (h : AppliesConfig c b r calls b') :
    FromDiff d calls ∧ (r = .ok () → b'.diff = d) := by
  cases h with
  | converged h now =>
    exact ⟨Quiet.fromDiff (by simp [Quiet]) d, fun _ => by simpa [Blueprint.finishConfig] using hb⟩
  | needed h now h' =>
    rw [hb] at h
    cases h' with
    | stopped h' => exact ⟨h'.quiet.fromDiff d, by simp⟩
    | continued h' h'' =>
      have hb₁ := h'.diff_eq hc (by simpa [Blueprint.startConfig] using hb) rfl
      obtain ⟨hd, hb'⟩ := h''.fromDiff hc hb₁ h
      exact ⟨(h'.quiet.fromDiff d).append hd, hb'⟩

theorem AppliesAll.fromDiff {r : Except Failure Outcome} (h : AppliesAll c b r calls b') :
    FromDiff d calls := by
  refine Ending.Then.fromDiff h (fun _ _ _ h => ⟨h.quiet.fromDiff d, ?_⟩) fun b₁ _ _ _ hb₁ h => ?_
  · rintro rfl
    rw [h.eq_of_ok.2, hb]
  refine Ending.Then.fromDiff h (fun _ _ _ h => h.fromDiff hc hb₁) fun b₂ _ _ _ hb₂ h => ?_
  refine Ending.Then.fromDiff h (fun _ _ _ h => h.fromDiff hc hb₂) fun b₃ _ _ _ hb₃ h => ?_
  exact Ending.Then.fromDiff h (fun _ _ _ h => h.fromDiff hc hb₃) fun _ _ _ _ _ h =>
    h.quiet.fromDiff d

end Faithful

/-! ## The gate -/

theorem AppliesAll.quiet_or {r : Except Failure Outcome} (h : AppliesAll c b r calls b') :
    Quiet calls ∨ ∃ rest, calls = .checkHealth b.config (.ok ()) :: rest := by
  cases h with
  | stopped h => exact .inl h.quiet
  | continued h h' =>
    rw [h.eq_of_ok.1]
    exact .inr ⟨_, rfl⟩

end Step

/-- Everything that could forbid to apply has been looked at, and what is applied comes in order. -/
structure Opened (policy : ActionPolicy) (id : String) (b : Blueprint) (d : StateDiff)
    (calls : List Call) : Prop where
  /-- Loading, determining and health, in this order, without a failure. -/
  calls_eq : ∃ ids rest, ids.length ≤ 1 ∧ calls = .list (.ok ids) :: .load id (.ok b) ::
    .determine b (.ok d) :: .checkHealth b.config (.ok ()) :: rest
  permits : policy.Permits d b.config.allowNamespaceSwitch
  not_dryRun : b.config.dryRun = false
  /-- Components, dogus and config, as far as the pass gets. -/
  isPrefix : ∃ components dogus config a₁ a₂ a₃, calls.filter Call.isApply <+:
    [.applyComponents components a₁, .applyDogus dogus a₂, .applyConfig config a₃]

namespace Step

variable {σ : Type} {c : Collaborators σ} {b b' : Blueprint} {calls : List Call}

/-- Either nothing is applied, or loading has been followed by everything that opens the gate. -/
theorem Proceeds.opened {policy : ActionPolicy} {r : Except Failure Outcome} {ids : List String}
    (h : Proceeds c b policy r calls b') (id : String) (hids : ids.length ≤ 1) :
    Quiet calls ∨ ∃ d, Opened policy id b d (.list (.ok ids) :: .load id (.ok b) :: calls) ∧
      (c.repository.Faithful → FromDiff d calls) := by
  cases h with
  | stopped h => exact .inl h.quiet
  | continued h h' =>
    have hdetermine := h.quiet
    obtain ⟨d, rfl, rfl⟩ := h.eq_of_ok
    cases h' with
    | stopped h' => exact .inl (hdetermine.append h'.quiet)
    | continued h' h'' =>
      obtain ⟨rfl, rfl, hpermits⟩ := h'.eq_of_ok
      cases h'' with
      | dryRun hdry now now' h'' => exact .inl (hdetermine.append h''.quiet)
      | applied hwet now now' h'' =>
        rcases h''.quiet_or with hq | ⟨rest, rfl⟩
        · exact .inl (hdetermine.append hq)
        · refine .inr ⟨d, ⟨⟨ids, rest, hids, by simp⟩, hpermits, hwet, ?_⟩, fun hc => ?_⟩
          · exact h''.isPrefix
          · exact (hdetermine.fromDiff d).append (h''.fromDiff hc (by simp))

end Step

namespace Collaborators

variable {σ : Type}

theorem Passes.gated {c : Collaborators σ} {policy : ActionPolicy} {id : String}
    {r : Except Failure Outcome} {calls : List Call} (h : c.Passes policy id r calls) :
    Guarded calls ∧ (Quiet calls ∨ ∃ b d, Opened policy id b d calls ∧
      (c.repository.Faithful → FromDiff d calls)) := by
  cases h with
  | notListed f =>
    have hq : Quiet [.list (.error f)] := by simp [Quiet, Call.isApply]
    exact ⟨hq.guarded, .inl hq⟩
  | @several ids h =>
    have hq : Quiet [.list (.ok ids)] := by simp [Quiet, Call.isApply]
    exact ⟨hq.guarded, .inl hq⟩
  | @notLoaded ids h f =>
    have hq : Quiet [.list (.ok ids), .load id (.error f)] := by simp [Quiet, Call.isApply]
    exact ⟨hq.guarded, .inl hq⟩
  | @loaded ids h b r calls b' h' =>
    have hq : Quiet [.list (.ok ids), .load id (.ok b)] := by simp [Quiet, Call.isApply]
    refine ⟨hq.guarded.append h'.safe.guarded ?_, ?_⟩
    · simp [Call.failure?, Call.failure?.failed]
    rcases h'.opened id h with hmore | ⟨d, hopened, hdiff⟩
    · exact .inl (hq.append hmore)
    · exact .inr ⟨b, d, hopened, fun hc => (hq.fromDiff d).append (hdiff hc)⟩

/-- **The gate before applying.** In every pass, whatever the collaborators answer, nothing is
applied after a failure, and nothing at all unless no more than one blueprint is listed, its diff is
determined and permitted, it is not in dry run, and the ecosystem is healthy. What is applied comes
in order. If the repository is faithful, it is what the diff lists. -/
theorem gated_runPass (c : Collaborators σ) (policy : ActionPolicy) (id : String) (s : σ) :
    let calls := ((c.traced.runPass policy id).run ⟨s, []⟩).2.calls
    Guarded calls ∧ (Quiet calls ∨ ∃ b d, Opened policy id b d calls ∧
      (c.repository.Faithful → FromDiff d calls)) :=
  (c.passes_runPass policy id s).gated

/-- A healthy pass applies the dogu that its diff asks for. -/
theorem opened_of_rehearsal :
    let d : StateDiff := ⟨[⟨"official/ldap", default, default, [.install]⟩], [],
      [⟨"logging/root", default, default, [.set]⟩]⟩
    let stored : Blueprint := { Blueprint.fresh "a" .plain with version := some ⟨"0"⟩ }
    let s : Rehearsal := ⟨Keyed.empty.put "a" stored, [], 1, .ok ["a"], none, fun _ => none,
      fun _ => .smooth default fun _ => default⟩
    let c : Collaborators Rehearsal := ⟨Rehearsal.repository, ⟨fun _ => return d⟩,
      ⟨fun _ => return (), fun _ => return (), fun _ => return (), fun _ => return ()⟩,
      fun s => (default, s)⟩
    let calls := ((c.traced.runPass .standard "a").run ⟨s, []⟩).2.calls
    calls.any Call.isApply = true ∧
      ∃ b d', Opened .standard "a" b d' calls ∧ FromDiff d' calls := by
  intro d stored s c calls
  have hany : calls.any Call.isApply = true := by decide
  refine ⟨hany, ?_⟩
  obtain ⟨-, hq | ⟨b, d', hopened, hdiff⟩⟩ := c.gated_runPass .standard "a" s
  · obtain ⟨call, hcall, happly⟩ := List.any_eq_true.mp hany
    rw [hq call hcall] at happly
    cases happly
  · exact ⟨b, d', hopened, hdiff Rehearsal.faithful_repository⟩

end Collaborators
end BlueprintControl
