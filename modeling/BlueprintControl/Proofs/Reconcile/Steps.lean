import BlueprintControl.Proofs.Domain.Frame
import BlueprintControl.Proofs.Reconcile.Trace

/-!
# The endings of a pass, step by step

For each step of a pass, all it can come to: its result, its calls with their answers, and the
blueprint it leaves. The answers are arbitrary, so the cases of a step are the answers it may get.
Whoever wants to know something about passes looks at these cases and not at the steps.

## Main definitions

* `Step.Saves`, `Step.Refuses`, `Step.Determines`, ...: the endings of the steps.
* `Step.Proceeds`: the endings of all steps after loading.

## Main statements

* `Step.yields_proceed`: what all steps after loading come to is one of these endings.
-/
namespace BlueprintControl

/-- The blueprint after both axes have been evaluated, each at its own time. -/
def Blueprint.evaluated (b : Blueprint) (error : Option String) (now now' : Stamp) : Blueprint :=
  ((b.evaluate .dogus error now).blueprint.evaluate .components error now').blueprint

@[simp] theorem Blueprint.evaluated_frame (b : Blueprint) (error : Option String)
    (now now' : Stamp) :
    (b.evaluated error now now').id = b.id ∧ (b.evaluated error now now').config = b.config ∧
    (b.evaluated error now now').diff = b.diff ∧
    (b.evaluated error now now').version = b.version := by
  simp [evaluated]

/-- The call that applies an axis. -/
def Axis.applyCall (axis : Axis) (d : StateDiff) (answer : Except Failure Unit) : Call :=
  match axis with
  | .components => .applyComponents d.components answer
  | .dogus => .applyDogus d.dogus answer

/-- What is said about an answer that is a failure. -/
def Step.errorOf : Except Failure Unit → Option String
  | .ok () => none
  | .error f => some f.message

namespace Step

variable {σ α : Type}

section Endings

variable (c : Collaborators σ) (b : Blueprint)

/-- Storing the blueprint. -/
inductive Saves : Ending Unit where
  | stored {s s' : σ} {b' : Blueprint} (h : (c.repository.update b).run s = (.ok b', s')) :
      Saves (.ok ()) [.update b (.ok b')] b'
  | failed (f : Failure) : Saves (.error f) [.update b (.error f)] b

/-- Storing the blueprint and ending with a failure. A failure to store it takes its place. -/
inductive Refuses (f : Failure) : Ending α where
  | stored {s s' : σ} {b' : Blueprint} (h : (c.repository.update b).run s = (.ok b', s')) :
      Refuses f (.error f) [.update b (.ok b')] b'
  | failed (g : Failure) : Refuses f (.error g) [.update b (.error g)] b

inductive Determines : Ending Unit where
  | known (d : StateDiff) : Determines (.ok ()) [.determine b (.ok d)] { b with diff := d }
  | unknown (f : Failure) (now now' : Stamp) {r : Except Failure Unit} {calls : List Call}
      {b' : Blueprint} (h : Refuses c (b.evaluated (some f.message) now now') f r calls b') :
      Determines r (.determine b (.error f) :: calls) b'

inductive ChecksActions (policy : ActionPolicy) : Ending Unit where
  | allowed (h : policy.validate b.diff b.config.allowNamespaceSwitch = .ok ()) :
      ChecksActions policy (.ok ()) [] b
  | denied {f : Failure} (h : policy.validate b.diff b.config.allowNamespaceSwitch = .error f)
      {r : Except Failure Unit} {calls : List Call} {b' : Blueprint}
      (h' : Refuses c (b.rejectActions f.message) f r calls b') : ChecksActions policy r calls b'

inductive ChecksHealth : Ending Unit where
  | healthy : ChecksHealth (.ok ()) [.checkHealth b.config (.ok ())] b
  | unhealthy {f : Failure} (h : f.kind = .unhealthy) {r : Except Failure Unit}
      {calls : List Call} {b' : Blueprint}
      (h' : Refuses c (b.rejectUnhealthy f.message) f r calls b') :
      ChecksHealth r (.checkHealth b.config (.error f) :: calls) b'
  | unknown {f : Failure} (h : f.kind ≠ .unhealthy) :
      ChecksHealth (.error f) [.checkHealth b.config (.error f)] b

/-- Applying an axis. The answer is the result, unless it cannot be stored. -/
inductive Applies (axis : Axis) : Ending Unit where
  | told (answer : Except Failure Unit) (now : Stamp) {r : Except Failure Unit}
      {calls : List Call} {b' : Blueprint}
      (h : Saves c (b.completeApply axis (errorOf answer) now).blueprint r calls b') :
      Applies axis (r.bind fun _ => answer) (axis.applyCall b.diff answer :: calls) b'
  | silent (answer : Except Failure Unit) (now : Stamp)
      (h : (b.completeApply axis (errorOf answer) now).changed = false)
      (h' : (b.completeApply axis (errorOf answer) now).blueprint.pending = []) :
      Applies axis answer [axis.applyCall b.diff answer]
        (b.completeApply axis (errorOf answer) now).blueprint

/-- Telling the executor to apply the config. -/
inductive Configures : Ending Unit where
  | applied (now : Stamp) {r : Except Failure Unit} {calls : List Call} {b' : Blueprint}
      (h : Saves c (b.finishConfig now).blueprint r calls b') :
      Configures r (.applyConfig b.diff.config (.ok ()) :: calls) b'
  | failed (f : Failure) (now : Stamp) {r : Except Failure Unit} {calls : List Call}
      {b' : Blueprint} (h : Refuses c (b.failConfig f.message now).blueprint f r calls b') :
      Configures r (.applyConfig b.diff.config (.error f) :: calls) b'

inductive AppliesConfig : Ending Unit where
  | converged (h : b.diff.configHasChanges = false) (now : Stamp) :
      AppliesConfig (.ok ()) [] (b.finishConfig now).blueprint
  | needed (h : b.diff.configHasChanges = true) (now : Stamp) {r : Except Failure Unit}
      {calls : List Call} {b' : Blueprint}
      (h' : (Saves c (b.startConfig now).blueprint).Then (Configures c) r calls b') :
      AppliesConfig r calls b'

/-- The end of a pass that has applied what there was to apply. -/
inductive Finishes (hadChanges : Bool) : Ending Outcome where
  | changed (h : hadChanges = true) {r : Except Failure Outcome} {calls : List Call}
      {b' : Blueprint} (h' : Refuses c b appliedChanges r calls b') : Finishes hadChanges r calls b'
  | completed (h : hadChanges = false) (now : Stamp) {r : Except Failure Unit} {calls : List Call}
      {b' : Blueprint} (h' : Saves c (b.complete now).blueprint r calls b') :
      Finishes hadChanges (r.map fun _ => .completed) calls b'

/-- Applying everything that the state diff of a blueprint asks for. -/
def AppliesAll : Ending Outcome :=
  (ChecksHealth c b).Then fun b₀ => (Applies c b₀ .components).Then fun b₁ =>
    (Applies c b₁ .dogus).Then fun b₂ => (AppliesConfig c b₂).Then fun b₃ =>
      Finishes c b₃ b₀.diff.hasChanges

/-- What follows when the actions are allowed. -/
inductive Evaluates : Ending Outcome where
  | dryRun (h : b.config.dryRun = true) (now now' : Stamp) {r : Except Failure Unit}
      {calls : List Call} {b' : Blueprint} (h' : Saves c (b.evaluated none now now') r calls b') :
      Evaluates (r.map fun _ => .dryRun) calls b'
  | applied (h : b.config.dryRun = false) (now now' : Stamp) {r : Except Failure Outcome}
      {calls : List Call} {b' : Blueprint}
      (h' : AppliesAll c (b.evaluated none now now') r calls b') : Evaluates r calls b'

/-- All steps after loading. -/
def Proceeds (policy : ActionPolicy) : Ending Outcome :=
  (Determines c b).Then fun b₀ => (ChecksActions c b₀ policy).Then fun b₁ => Evaluates c b₁

end Endings

variable {c : Collaborators σ} {b : Blueprint}

/-! ## What the steps come to -/

theorem yields_save : Yields (save c.traced) b (Saves c b) :=
  yields_ask_bind (fun _ _ _ h => yields_revise (.stored h)) .failed

theorem yields_refuse (f : Failure) :
    Yields (save c.traced >>= fun _ => (Task.fail f : Step _ α)) b (Refuses c b f) := by
  refine yields_save.bind ?_ ?_
  · rintro _ calls b' ⟨h⟩
    exact yields_fail (.stored h)
  · rintro e calls b' ⟨⟩
    exact .failed e

theorem yields_evaluateAxes_bind {error : Option String} {g : Unit → Step (Traced σ) α}
    {Q : Ending α} (h : ∀ now now', Yields (g ()) (b.evaluated error now now') Q) :
    Yields (evaluateAxes c.traced error >>= g) b Q :=
  fun s calls => h (c.clock s).1 (c.clock (c.clock s).2).1 (c.clock (c.clock s).2).2 calls

theorem yields_determine : Yields (determine c.traced) b (Determines c b) := by
  refine yields_attempt_bind fun answer => ?_
  cases answer with
  | ok d => exact yields_revise (.known d)
  | error f =>
    refine yields_evaluateAxes_bind fun now now' => ?_
    exact (yields_refuse f).mono fun _ _ _ h => .unknown f now now' h

theorem yields_checkActions {policy : ActionPolicy} :
    Yields (checkActions c.traced policy) b (ChecksActions c b policy) := by
  refine yields_world_bind ?_
  rintro u rfl
  cases h : policy.validate u.blueprint.diff u.blueprint.config.allowNamespaceSwitch with
  | ok _ =>
    simp only [h]
    exact yields_pure (.allowed h)
  | error f =>
    simp only [h]
    refine yields_revise_bind ?_
    exact (yields_refuse f).mono fun _ _ _ h' => .denied h h'

theorem yields_checkHealth : Yields (checkHealth c.traced) b (ChecksHealth c b) := by
  refine yields_attempt_bind fun answer => ?_
  cases answer with
  | ok _ => exact yields_pure .healthy
  | error f =>
    by_cases h : f.kind = .unhealthy
    · simp only [h, if_true]
      refine yields_revise_bind ?_
      exact (yields_refuse f).mono fun _ _ _ h' => .unhealthy h h'
    · simp only [h, if_false]
      exact yields_fail (.unknown h)

/-- What is done with the answer of the executor. -/
theorem yields_completeApply (axis : Axis) (answer : Except Failure Unit) :
    Yields (do
      let changed ← transition c.traced fun b now => b.completeApply axis (errorOf answer) now
      if changed || !(← Task.world).blueprint.pending.isEmpty then
        save c.traced
      Task.ofExcept answer) b fun r calls b' =>
        Applies c b axis r (axis.applyCall b.diff answer :: calls) b' := by
  refine yields_transition_bind fun now => yields_world_bind ?_
  rintro u hu
  split
  case isTrue =>
    refine yields_save.bind (fun _ calls b' h => yields_ofExcept ?_) fun _ _ _ h => ?_
    · rw [List.append_nil]
      exact .told answer now h
    · exact .told answer now h
  case isFalse hsilent =>
    rw [hu] at hsilent
    obtain ⟨hchanged, hpending⟩ : (b.completeApply axis (errorOf answer) now).changed = false ∧
        (b.completeApply axis (errorOf answer) now).blueprint.pending = [] := by
      simpa using hsilent
    exact yields_ofExcept (.silent answer now hchanged hpending)

theorem yields_apply (axis : Axis) : Yields (apply c.traced axis) b (Applies c b axis) := by
  cases axis with
  | components =>
    exact yields_attempt_bind fun answer => yields_completeApply .components answer
  | dogus =>
    exact yields_attempt_bind fun answer => yields_completeApply .dogus answer

theorem yields_configure : Yields (do
      match ← (ask fun b => c.traced.executor.applyConfig b.diff.config).attempt with
      | .ok () =>
        let _ ← transition c.traced Blueprint.finishConfig
        save c.traced
      | .error f =>
        let _ ← transition c.traced fun b now => b.failConfig f.message now
        save c.traced
        Task.fail f) b (Configures c b) := by
  refine yields_attempt_bind fun answer => ?_
  cases answer with
  | ok _ =>
    refine yields_transition_bind fun now => ?_
    exact yields_save.mono fun _ _ _ h => .applied now h
  | error f =>
    refine yields_transition_bind fun now => ?_
    exact (yields_refuse f).mono fun _ _ _ h => .failed f now h

theorem yields_applyConfig : Yields (applyConfig c.traced) b (AppliesConfig c b) := by
  refine yields_world_bind ?_
  rintro u rfl
  cases h : u.blueprint.diff.configHasChanges with
  | false =>
    simp only [Bool.not_false, if_true]
    exact yields_transition_bind fun now => yields_pure (.converged h now)
  | true =>
    simp only [Bool.not_true, Bool.false_eq_true, if_false]
    refine yields_transition_bind fun now => ?_
    exact (yields_save.seq fun _ => yields_configure).mono fun _ _ _ h' => .needed h now h'

theorem yields_finish (hadChanges : Bool) : Yields (do
      if hadChanges then
        save c.traced
        Task.fail appliedChanges
      else
        let _ ← transition c.traced Blueprint.complete
        save c.traced
        return .completed) b (Finishes c b hadChanges) := by
  cases hadChanges with
  | true => exact (yields_refuse appliedChanges).mono fun _ _ _ h => .changed rfl h
  | false =>
    refine yields_transition_bind fun now => yields_save.bind (fun _ _ _ h => yields_pure ?_) ?_
    · rw [List.append_nil]
      exact .completed rfl now h
    · exact fun _ _ _ h => .completed rfl now h

theorem yields_applyAll : Yields (applyAll c.traced) b (AppliesAll c b) := by
  refine yields_checkHealth.seq fun b₀ => yields_world_bind ?_
  rintro u rfl
  exact (yields_apply .components).seq fun _ => (yields_apply .dogus).seq fun _ =>
    yields_applyConfig.seq fun _ => yields_finish _

theorem yields_proceed (policy : ActionPolicy) :
    Yields (proceed c.traced policy) b (Proceeds c b policy) := by
  refine yields_determine.seq fun _ => yields_checkActions.seq fun b₁ => ?_
  refine yields_evaluateAxes_bind fun now now' => yields_world_bind ?_
  rintro u hu
  have hdry : u.blueprint.config.dryRun = b₁.config.dryRun := by simp [hu]
  split
  case isTrue h =>
    refine yields_save.bind (fun _ _ _ h' => yields_pure ?_) ?_
    · rw [List.append_nil]
      exact .dryRun (hdry ▸ h) now now' h'
    · exact fun _ _ _ h' => .dryRun (hdry ▸ h) now now' h'
  case isFalse h =>
    exact yields_applyAll.mono fun _ _ _ h' => .applied (by simpa [hdry] using h) now now' h'

end Step

/-! ## The whole pass -/

/-- How a pass can end, with all its calls. -/
inductive Collaborators.Passes {σ : Type} (c : Collaborators σ) (policy : ActionPolicy)
    (id : String) : Except Failure Outcome → List Call → Prop where
  | notListed (f : Failure) : Passes c policy id (.error f) [.list (.error f)]
  | several {ids : List String} (h : 1 < ids.length) :
      Passes c policy id (.error (.multipleBlueprints ids)) [.list (.ok ids)]
  | notLoaded {ids : List String} (h : ids.length ≤ 1) (f : Failure) :
      Passes c policy id (.error f) [.list (.ok ids), .load id (.error f)]
  | loaded {ids : List String} (h : ids.length ≤ 1) (b : Blueprint)
      {r : Except Failure Outcome} {calls : List Call} {b' : Blueprint}
      (h' : Step.Proceeds c b policy r calls b') :
      Passes c policy id r (.list (.ok ids) :: .load id (.ok b) :: calls)

theorem Collaborators.passes_runPass {σ : Type} (c : Collaborators σ) (policy : ActionPolicy)
    (id : String) (s : σ) :
    c.Passes policy id ((c.traced.runPass policy id).run ⟨s, []⟩).1
      ((c.traced.runPass policy id).run ⟨s, []⟩).2.calls := by
  rcases hlist : c.repository.list.run s with ⟨answer, s₁⟩
  cases answer with
  | error f =>
    have hrun : (c.traced.runPass policy id).run ⟨s, []⟩ = (.error f, ⟨s₁, [.list (.error f)]⟩) := by
      simp [runPass, loadSingle, traced, Task.run_bind, hlist]
    rw [hrun]
    exact .notListed f
  | ok ids =>
    by_cases hids : 1 < ids.length
    · have hrun : (c.traced.runPass policy id).run ⟨s, []⟩
          = (.error (.multipleBlueprints ids), ⟨s₁, [.list (.ok ids)]⟩) := by
        simp [runPass, loadSingle, traced, Task.run_bind, hlist, hids]
      rw [hrun]
      exact .several hids
    · rcases hload : (c.repository.load id).run s₁ with ⟨answer, s₂⟩
      cases answer with
      | error f =>
        have hrun : (c.traced.runPass policy id).run ⟨s, []⟩
            = (.error f, ⟨s₂, [.list (.ok ids), .load id (.error f)]⟩) := by
          simp [runPass, loadSingle, traced, Task.run_bind, hlist, hids, hload]
        rw [hrun]
        exact .notLoaded (Nat.not_lt.mp hids) f
      | ok b =>
        let u := (Step.proceed c.traced policy).run
          ⟨b, ⟨s₂, [.list (.ok ids), .load id (.ok b)]⟩⟩
        have hrun : (c.traced.runPass policy id).run ⟨s, []⟩ = (u.1, u.2.world) := by
          simp [runPass, loadSingle, traced, Task.run_bind, hlist, hids, hload,
            Step.startingWith, u]
        obtain ⟨more, hmore, h⟩ :=
          Step.yields_proceed (b := b) policy s₂ [.list (.ok ids), .load id (.ok b)]
        rw [hrun]
        exact hmore ▸ .loaded (Nat.not_lt.mp hids) b h

end BlueprintControl
