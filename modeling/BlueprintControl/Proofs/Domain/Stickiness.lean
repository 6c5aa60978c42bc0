import BlueprintControl.Proofs.Domain.DecisionTable

/-!
# Axes that cannot be applied

An axis that could not be applied stays as it is, however often it is looked at and whatever is done
to the other axes. It takes another attempt to apply it, or a state diff that cannot be determined,
to move it. Until then nothing is told of the axis.

## Main definitions

* `Operation.reopens`: the operations that move an axis which cannot be applied.
* `Blueprint.CannotApply`: the axis could not be applied, and this is known.

## Main statements

* `Blueprint.CannotApply.perform`: one operation that does not reopen the axis.
* `Blueprint.cannotApply_sticky`: any number of them.
-/
namespace BlueprintControl

/-- The operation is the end of an attempt to apply the axis, or it finds that the state diff cannot
be determined. -/
def Operation.reopens (axis : Axis) : Operation → Bool
  | .completeApply a _ | .evaluate a (some _) => a == axis
  | _ => false

namespace Blueprint

variable {b : Blueprint} {axis : Axis} {c : Condition} {now : Stamp} {o : Operation}
  {history : List (Operation × Stamp)}

/-- The axis has this condition, which says that it could not be applied. -/
structure CannotApply (b : Blueprint) (axis : Axis) (c : Condition) : Prop where
  find : b.conditions.find? axis.conditionType = some c
  reason : c.reason = Reason.cannotApply
  known : c.status ≠ .unknown

/-- Of the operations in the lane of the axis only a look at it does not reopen it. -/
theorem eq_evaluate_of_not_reopens (ho : o.reopens axis = false)
    (hlane : o.lane = some axis.conditionType) : o = .evaluate axis none := by
  obtain ⟨error, rfl⟩ | ⟨error, rfl⟩ := Operation.lane_eq_conditionType_iff.mp hlane
  · cases error with
    | none => rfl
    | some e => simp [Operation.reopens] at ho
  · simp [Operation.reopens] at ho

namespace CannotApply

/-- The axis neither follows the diff nor has it been applied. -/
theorem evaluate_eq (h : b.CannotApply axis c) (now : Stamp) :
    (b.evaluate axis none now).blueprint = b := by
  have hother : ¬ (b.FollowsDiff axis ∨ b.HasApplied axis ∧ axis.hasChanges b.diff = true) := by
    rintro (hfollows | ⟨⟨c', hfind, -, hreason⟩, -⟩)
    · obtain hunknown | hwaits := hfollows c h.find
      · exact h.known hunknown
      · exact absurd (h.reason.symm.trans hwaits) (by decide)
    · cases h.find.symm.trans hfind
      exact absurd (h.reason.symm.trans hreason) (by decide)
  exact (evaluate_of_stay (target_of_kept hother)).1

/-- One operation that does not reopen the axis: the condition stays, and nothing is told of it. -/
theorem perform (h : b.CannotApply axis c) (ho : o.reopens axis = false) (now : Stamp) :
    (b.perform now o).blueprint.CannotApply axis c ∧
      ∀ e ∈ b.appended now o, e.lane ≠ some axis.conditionType := by
  by_cases hlane : o.lane = some axis.conditionType
  · obtain rfl : o = .evaluate axis none := eq_evaluate_of_not_reopens ho hlane
    have hsame : (b.perform now (.evaluate axis none)).blueprint = b := h.evaluate_eq now
    have hsilent : b.appended now (.evaluate axis none) = [] := by simp [appended, hsame]
    exact ⟨hsame.symm ▸ h, by simp [hsilent]⟩
  · refine ⟨⟨(b.find?_perform now hlane).trans h.find, h.reason, h.known⟩, ?_⟩
    intro e he
    rwa [lane_of_mem_appended he]

end CannotApply

/-- **An axis that cannot be applied stays so.** If the condition of an axis says that it could not
be applied, and is not unknown, then it stays as it is in every field, whatever is done to the
blueprint, and nothing is told of the axis, until an attempt to apply the axis ends or it is
evaluated against an error of the state diff. -/
theorem cannotApply_sticky (h : b.CannotApply axis c)
    (hall : ∀ p ∈ history, p.1.reopens axis = false) :
    (b.performAll history).conditions.find? axis.conditionType = some c ∧
      ∀ e ∈ b.recorded history, e.lane ≠ some axis.conditionType := by
  induction history generalizing b with
  | nil => exact ⟨h.find, by simp [recorded]⟩
  | cons p rest ih =>
    obtain ⟨hfirst, hrest⟩ := List.forall_mem_cons.mp hall
    obtain ⟨hstep, hsilent⟩ := h.perform hfirst p.2
    obtain ⟨hfind, hquiet⟩ := ih hstep hrest
    refine ⟨hfind, ?_⟩
    intro e he
    obtain hnow | hlater := List.mem_append.mp he
    · exact hsilent e hnow
    · exact hquiet e hlater

/-- A blueprint whose dogus could not be applied, although one is to be installed. -/
def stuckDogus : Blueprint :=
  { fresh "blueprint-1" .plain with
    conditions := ⟨[⟨.dogusApplied, .fails, Reason.cannotApply, "image pull failed", default⟩]⟩
    diff := ⟨[⟨"official/cas", default, default, [.install]⟩], [], []⟩ }

/-- The dogus are looked at with and without changes, and all else is applied. -/
theorem sticky_among_others :
    let c : Condition := ⟨.dogusApplied, .fails, Reason.cannotApply, "image pull failed", default⟩
    let history : List (Operation × Stamp) :=
      [(.evaluate .dogus none, default), (.evaluate .components (some "timeout"), default),
        (.replaceDiff .empty, default), (.evaluate .dogus none, default),
        (.completeApply .components none, default), (.startConfig, default),
        (.finishConfig, default), (.complete, default), (.drain, default)]
    (∀ p ∈ history, p.1.reopens .dogus = false) ∧
      (stuckDogus.performAll history).conditions.find? .dogusApplied = some c ∧
        ∀ e ∈ stuckDogus.recorded history, e.lane ≠ some .dogusApplied := by
  intro c history
  have hstuck : stuckDogus.CannotApply .dogus c := ⟨rfl, rfl, by decide⟩
  have hall : ∀ p ∈ history, p.1.reopens .dogus = false := by
    simp [history, Operation.reopens]
  exact ⟨hall, cannotApply_sticky hstuck hall⟩

end Blueprint
end BlueprintControl
