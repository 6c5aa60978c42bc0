import BlueprintControl.Proofs.Reconcile.Steps

/-!
# The calls of a step

Whatever holds of the kinds of calls that a step can make holds of all its calls. This is shown
once for each step, for any property of calls.

## Main statements

* `Step.Ending.Then.forall_mem`: what holds of the calls of two steps holds of one after the other.
* `Step.Saves.forall_mem`, `Step.Evaluates.forall_mem`, ...: the calls of each step.
-/
namespace BlueprintControl.Step

variable {σ α : Type} {c : Collaborators σ} {b b' : Blueprint} {calls : List Call}
  {P : Call → Prop}

theorem Ending.Then.forall_mem {first : Ending Unit} {second : Blueprint → Ending α}
    {r : Except Failure α} (h : first.Then second r calls b')
    (hfirst : ∀ r calls b', first r calls b' → ∀ call ∈ calls, P call)
    (hsecond : ∀ b r calls b', second b r calls b' → ∀ call ∈ calls, P call) :
    ∀ call ∈ calls, P call := by
  cases h with
  | stopped h => exact hfirst _ _ _ h
  | continued h h' => exact List.forall_mem_append.mpr ⟨hfirst _ _ _ h, hsecond _ _ _ _ h'⟩

/-! ## Steps that store -/

section Stores

variable (hupdate : ∀ u answer, P (.update u answer))
include hupdate

theorem Saves.forall_mem {r : Except Failure Unit} (h : Saves c b r calls b') :
    ∀ call ∈ calls, P call := by
  cases h <;> exact List.forall_mem_singleton.mpr (hupdate _ _)

theorem Refuses.forall_mem {f : Failure} {r : Except Failure α} (h : Refuses c b f r calls b') :
    ∀ call ∈ calls, P call := by
  cases h <;> exact List.forall_mem_singleton.mpr (hupdate _ _)

theorem Determines.forall_mem (hdetermine : ∀ answer, P (.determine b answer))
    {r : Except Failure Unit} (h : Determines c b r calls b') : ∀ call ∈ calls, P call := by
  cases h with
  | known d => exact List.forall_mem_singleton.mpr (hdetermine _)
  | unknown f now now' h => exact List.forall_mem_cons.mpr ⟨hdetermine _, h.forall_mem hupdate⟩

theorem ChecksActions.forall_mem {policy : ActionPolicy} {r : Except Failure Unit}
    (h : ChecksActions c b policy r calls b') : ∀ call ∈ calls, P call := by
  cases h with
  | allowed h => exact List.forall_mem_nil _
  | denied h h' => exact h'.forall_mem hupdate

theorem Finishes.forall_mem {hadChanges : Bool} {r : Except Failure Outcome}
    (h : Finishes c b hadChanges r calls b') : ∀ call ∈ calls, P call := by
  cases h with
  | changed h h' => exact h'.forall_mem hupdate
  | completed h now h' => exact h'.forall_mem hupdate

/-! ## Steps that ask the executor -/

theorem ChecksHealth.forall_mem (hhealth : ∀ answer, P (.checkHealth b.config answer))
    {r : Except Failure Unit} (h : ChecksHealth c b r calls b') : ∀ call ∈ calls, P call := by
  cases h with
  | healthy => exact List.forall_mem_singleton.mpr (hhealth _)
  | unhealthy h h' => exact List.forall_mem_cons.mpr ⟨hhealth _, h'.forall_mem hupdate⟩
  | unknown h => exact List.forall_mem_singleton.mpr (hhealth _)

theorem Applies.forall_mem {axis : Axis} (happly : ∀ answer, P (axis.applyCall b.diff answer))
    {r : Except Failure Unit} (h : Applies c b axis r calls b') : ∀ call ∈ calls, P call := by
  cases h with
  | told answer now h => exact List.forall_mem_cons.mpr ⟨happly answer, h.forall_mem hupdate⟩
  | silent _ now h h' => exact List.forall_mem_singleton.mpr (happly _)

theorem Configures.forall_mem (hconfig : ∀ answer, P (.applyConfig b.diff.config answer))
    {r : Except Failure Unit} (h : Configures c b r calls b') : ∀ call ∈ calls, P call := by
  cases h with
  | applied now h => exact List.forall_mem_cons.mpr ⟨hconfig _, h.forall_mem hupdate⟩
  | failed f now h => exact List.forall_mem_cons.mpr ⟨hconfig _, h.forall_mem hupdate⟩

section Executor

variable (hhealth : ∀ config answer, P (.checkHealth config answer))
  (happly : ∀ (axis : Axis) d answer, P (axis.applyCall d answer))
  (hconfig : ∀ ds answer, P (.applyConfig ds answer))

include hconfig in
theorem AppliesConfig.forall_mem {r : Except Failure Unit} (h : AppliesConfig c b r calls b') :
    ∀ call ∈ calls, P call := by
  cases h with
  | converged h now => exact List.forall_mem_nil _
  | needed h now h' =>
    exact Ending.Then.forall_mem h' (fun _ _ _ h => h.forall_mem hupdate)
      fun _ _ _ _ h => h.forall_mem hupdate (hconfig _)

include hhealth happly hconfig

theorem AppliesAll.forall_mem {r : Except Failure Outcome} (h : AppliesAll c b r calls b') :
    ∀ call ∈ calls, P call :=
  Ending.Then.forall_mem h (fun _ _ _ h => h.forall_mem hupdate (hhealth _)) fun _ _ _ _ h =>
    Ending.Then.forall_mem h (fun _ _ _ h => h.forall_mem hupdate (happly _ _)) fun _ _ _ _ h =>
      Ending.Then.forall_mem h (fun _ _ _ h => h.forall_mem hupdate (happly _ _)) fun _ _ _ _ h =>
        Ending.Then.forall_mem h (fun _ _ _ h => h.forall_mem hupdate hconfig) fun _ _ _ _ h =>
          h.forall_mem hupdate

theorem Evaluates.forall_mem {r : Except Failure Outcome} (h : Evaluates c b r calls b') :
    ∀ call ∈ calls, P call := by
  cases h with
  | dryRun h now now' h' => exact h'.forall_mem hupdate
  | applied h now now' h' => exact h'.forall_mem hupdate hhealth happly hconfig

end Executor
end Stores
end BlueprintControl.Step
