import BlueprintControl.Proofs.Domain.Operations
import BlueprintControl.Proofs.Domain.Rest

/-!
# Diffs that cannot be determined

An axis whose diff cannot be determined becomes unknown, with the error as its message. This is told
once: an axis that is unknown for this reason takes over the new message, and nothing else of it
changes. Whatever does not belong to an axis stays as it is.

## Main definitions

* `Axis.isUndetermined`: the axis is unknown because its diff could not be determined.
* `Conditions.determined`: the other axes.

## Main statements

* `Blueprint.conditions_evaluate_error`, `Blueprint.pending_evaluate_error`: what an error does to
  an axis, and when it is told.
-/
namespace BlueprintControl

/-- The axis is unknown because its diff could not be determined. -/
def Axis.isUndetermined (axis : Axis) (cs : Conditions) : Bool :=
  match cs.find? axis.conditionType with
  | some c => c.status == .unknown && c.reason == Reason.cannotDetermine
  | none => false

/-- The axes that are not unknown for this reason. -/
def Conditions.determined (cs : Conditions) : List Axis :=
  [.dogus, .components].filter fun axis => !axis.isUndetermined cs

namespace Axis

variable {axis : Axis} {cs cs' : Conditions}

theorem isUndetermined_congr (h : cs'.find? axis.conditionType = cs.find? axis.conditionType) :
    axis.isUndetermined cs' = axis.isUndetermined cs := by
  simp only [isUndetermined, h]

theorem changes_cannotDetermine (axis : Axis) (cs : Conditions) :
    cs.changes axis.conditionType .unknown Reason.cannotDetermine = !axis.isUndetermined cs := by
  cases hfind : cs.find? axis.conditionType with
  | none => simp [Conditions.changes, isUndetermined, hfind]
  | some c => simp [Conditions.changes, isUndetermined, hfind, Condition.differs, bne]

theorem isUndetermined_of_find? {message : String} {since : Stamp}
    (h : cs.find? axis.conditionType
      = some ⟨axis.conditionType, .unknown, Reason.cannotDetermine, message, since⟩) :
    axis.isUndetermined cs = true := by
  simp [isUndetermined, h]

end Axis

theorem Conditions.determined_eq_nil {cs : Conditions}
    (h : ∀ axis : Axis, axis.isUndetermined cs = true) : cs.determined = [] := by
  simp [determined, h]

namespace Blueprint

variable (b : Blueprint) (axis : Axis) (e : String) (now : Stamp)

@[simp] theorem conditions_evaluate_error :
    (b.evaluate axis (some e) now).blueprint.conditions
      = b.conditions.set axis.conditionType .unknown Reason.cannotDetermine e now := by
  simp [evaluate]

theorem pending_evaluate_error : (b.evaluate axis (some e) now).blueprint.pending
    = b.pending ++ if axis.isUndetermined b.conditions then [] else [.diffFailed axis e] := by
  simp only [evaluate, pending_transition, axis.changes_cannotDetermine b.conditions,
    Bool.or_false]
  cases axis.isUndetermined b.conditions <;> rfl

end Blueprint
end BlueprintControl
