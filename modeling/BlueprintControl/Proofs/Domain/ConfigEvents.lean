import BlueprintControl.Proofs.Domain.Lanes
import Mathlib.Data.List.Chain

/-!
# Events of the config

The events of the config tell exactly how its condition moves. An event is recorded if the condition
changes, and each kind of event goes with one status and one reason. So the condition is the one that
the last event tells of, whether or not this event has been published in the meantime, and no event
repeats what the one before it has told.

## Main definitions

* `ConfigStage`: what events can tell of the config, and the condition that goes with it.
* `Blueprint.Mirrors`: the condition of the config is what has been told of it.

## Main statements

* `Blueprint.Mirrors.perform`: one operation.
* `Blueprint.config_mirrored`: any operations on a new blueprint.
-/
namespace BlueprintControl

/-- How far the config has come. -/
inductive ConfigStage where
  | applying
  | failed
  | applied
  deriving DecidableEq

/-- Status and reason of the config at this stage. -/
def ConfigStage.shown : ConfigStage → Status × String
  | .applying => (.fails, Reason.applying)
  | .failed => (.fails, Reason.applyingFailed)
  | .applied => (.holds, Reason.applied)

/-- The stage of the config that an event tells of. -/
def Event.configStage : Event → Option ConfigStage
  | .configApplying => some .applying
  | .configApplyFailed _ => some .failed
  | .configApplied => some .applied
  | _ => none

/-- An event that tells of a stage is in the lane of the config. -/
theorem Event.configStage_of_lane {e : Event} (h : e.lane ≠ some .configApplied) :
    e.configStage = none := by
  cases e with
  | configApplying | configApplyFailed _ | configApplied => exact absurd rfl h
  | _ => rfl

namespace Blueprint

variable {b b' : Blueprint} {told : List ConfigStage} {now : Stamp} {o : Operation}

/-- The condition of the config is the one that was told last, and each time something else was told
than the time before. -/
structure Mirrors (b : Blueprint) (told : List ConfigStage) : Prop where
  shown : b.conditions.shown .configApplied = told.getLast?.map ConfigStage.shown
  chain : told.IsChain (· ≠ ·)

/-- The config enters a stage. If it has been there already, nothing is told. -/
theorem Mirrors.enter (h : b.Mirrors told) {g : ConfigStage} {e : Event}
    (he : e.configStage = some g) (message : String) (now : Stamp) :
    let b' := (b.transition .configApplied g.shown.1 g.shown.2 message now false (some e)).blueprint
    b'.Mirrors (told ++ (b'.pending.drop b.pending.length).filterMap Event.configStage) := by
  intro b'
  have hshown : b'.conditions.shown .configApplied = some g.shown := by
    simp only [b', conditions_transition, Conditions.shown_set]
  by_cases hchanges : b.conditions.changes .configApplied g.shown.1 g.shown.2 = true
  · have hpending : b'.pending.drop b.pending.length = [e] := by
      simp [b', pending_transition, hchanges]
    have hnew : ∀ last ∈ told.getLast?, last ≠ g := by
      rintro last hlast rfl
      refine Conditions.changes_eq_true_iff.mp hchanges ?_
      rw [h.shown, hlast, Option.map_some]
    rw [hpending, List.filterMap_cons_some he, List.filterMap_nil]
    refine ⟨by simp [hshown], List.isChain_append.mpr ⟨h.chain, List.isChain_singleton g, ?_⟩⟩
    simpa using hnew
  · have hpending : b'.pending.drop b.pending.length = [] := by
      simp [b', pending_transition, hchanges]
    have hsame : b.conditions.shown .configApplied = some g.shown := by
      simpa [Conditions.changes_eq_true_iff] using hchanges
    rw [hpending, List.filterMap_nil, List.append_nil]
    exact ⟨hshown.trans (hsame.symm.trans h.shown), h.chain⟩

/-- One operation. What is done in other lanes neither changes the config nor tells of it. -/
theorem Mirrors.perform (h : b.Mirrors told) (now : Stamp) (o : Operation) :
    (b.perform now o).blueprint.Mirrors
      (told ++ (b.appended now o).filterMap Event.configStage) := by
  by_cases hlane : o.lane = some .configApplied
  · cases o with
    | startConfig => exact h.enter (g := .applying) rfl _ now
    | failConfig error => exact h.enter (g := .failed) rfl _ now
    | finishConfig => exact h.enter (g := .applied) rfl _ now
    | evaluate axis error | completeApply axis error =>
      exact absurd (Option.some.inj hlane) axis.conditionType_ne.1
    | complete | rejectActions _ | rejectUnhealthy _ | replaceDiff _ | drain => cases hlane
  · have hsilent : (b.appended now o).filterMap Event.configStage = [] := by
      refine List.filterMap_eq_nil_iff.mpr fun e he => Event.configStage_of_lane ?_
      rwa [lane_of_mem_appended he]
    rw [hsilent, List.append_nil]
    refine ⟨?_, h.chain⟩
    rw [← h.shown, Conditions.shown, Conditions.shown, b.find?_perform now hlane]

/-- Any number of operations. -/
theorem Mirrors.performAll (h : b.Mirrors told) (history : List (Operation × Stamp)) :
    (b.performAll history).Mirrors
      (told ++ (b.recorded history).filterMap Event.configStage) := by
  induction history generalizing b told with
  | nil => simpa [recorded] using h
  | cons p rest ih =>
    rw [performAll_cons, recorded, List.filterMap_append, ← List.append_assoc]
    exact ih (h.perform p.2 p.1)

/-- **Config events mirror the config.** Whatever is done to a new blueprint, and whenever its events
are published, the config has no condition if none of its events has ever been recorded; otherwise
status and reason are those that go with the last one. No two of these events in a row are of the
same kind, not even two failures with different texts. -/
theorem config_mirrored (id : String) (config : BlueprintConfig)
    (history : List (Operation × Stamp)) :
    let b := fresh id config
    let told := (b.recorded history).filterMap Event.configStage
    (b.performAll history).conditions.shown .configApplied = told.getLast?.map ConfigStage.shown ∧
      told.IsChain (· ≠ ·) := by
  intro b told
  have hnew : b.Mirrors [] := ⟨rfl, List.isChain_nil⟩
  have hmirrors := hnew.performAll history
  exact ⟨hmirrors.shown, hmirrors.chain⟩

end Blueprint
end BlueprintControl
