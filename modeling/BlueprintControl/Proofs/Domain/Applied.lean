import BlueprintControl.Proofs.Domain.DecisionTable
import Mathlib.Data.List.Induction

/-!
# Axes that are applied

The condition of an axis holds exactly if the axis has been applied, and nothing since the last
time has taken that back. Three things do: a failure to apply the axis, a diff that could not be
determined, and a look at the axis while its diff has changes. A look at an axis without changes
neither sets the condition nor takes it back, and what is done to the other axis does not matter.

## Main definitions

* `Operation.takesBack`: whether an operation ends that an axis is applied.
* `Blueprint.AppliedIn`: an axis has been applied in a history, and this has not been taken back.

## Main statements

* `Blueprint.isTrue_perform_iff`: what one operation does to the condition of an axis.
* `Blueprint.appliedIn_concat_iff`: what one more operation does to a history.
* `Blueprint.isTrue_iff_appliedIn`: the condition of an axis after any history.
-/
namespace BlueprintControl

/-- Whether the operation ends that an axis is applied, when it finds this state diff. -/
def Operation.takesBack (axis : Axis) (d : StateDiff) : Operation → Bool
  | .completeApply a (some _) | .evaluate a (some _) => a == axis
  | .evaluate a none => a == axis && axis.hasChanges d
  | _ => false

theorem Conditions.isTrue_set (cs : Conditions) (t : ConditionType) (s : Status)
    (reason message : String) (now : Stamp) :
    (cs.set t s reason message now).isTrue t = (s == .holds) := by
  cases hfind : cs.find? t <;> simp [isTrue, hfind, written]

namespace Blueprint

variable {b : Blueprint} {axis : Axis} {o : Operation} {now : Stamp}
  {history : List (Operation × Stamp)}

/-! ## One operation -/

/-- What is done in another lane does not take back that the axis is applied. -/
theorem takesBack_of_lane (h : o.lane ≠ some axis.conditionType) (d : StateDiff) :
    o.takesBack axis d = false := by
  cases o with
  | evaluate a error =>
    have ha : a ≠ axis := by
      rintro rfl
      exact h rfl
    cases error <;> simp [Operation.takesBack, ha]
  | completeApply a error =>
    have ha : a ≠ axis := by
      rintro rfl
      exact h rfl
    cases error <;> simp [Operation.takesBack, ha]
  | _ => rfl

/-- An axis that is applied has a reason to be so, and is not unknown. -/
theorem hasApplied_of_isTrue (h : b.conditions.Admissible)
    (htrue : b.conditions.isTrue axis.conditionType = true) : b.HasApplied axis := by
  cases hfind : b.conditions.find? axis.conditionType with
  | none => simp [Conditions.isTrue, hfind] at htrue
  | some c =>
    have hstatus : c.status = .holds := by simpa [Conditions.isTrue, hfind] using htrue
    have hadmitted := h.of_find? hfind
    refine ⟨c, hfind, by simp [hstatus], ?_⟩
    cases axis <;> simpa [Axis.conditionType, ConditionType.admitted, hstatus] using hadmitted

/-- Looking at an axis only ever takes back that it is applied. -/
theorem isTrue_evaluate (h : b.conditions.Admissible) (error : Option String) :
    (b.evaluate axis error now).blueprint.conditions.isTrue axis.conditionType
      = (b.conditions.isTrue axis.conditionType
        && !(Operation.evaluate axis error).takesBack axis b.diff) := by
  cases error with
  | some e => simp [Conditions.isTrue_set, Operation.takesBack]
  | none =>
    cases htrue : b.conditions.isTrue axis.conditionType with
    | true =>
      have htarget := target_of_hasApplied (hasApplied_of_isTrue h htrue) (axis.hasChanges b.diff)
      cases hchanges : axis.hasChanges b.diff <;> rw [hchanges] at htarget <;>
        simp [evaluate, htarget, Conditions.isTrue_set, Operation.takesBack, hchanges, htrue]
    | false =>
      cases htarget : target (b.conditions.find? axis.conditionType) (axis.hasChanges b.diff) with
      | settle waiting => cases waiting <;> simp [evaluate, htarget, Conditions.isTrue_set]
      | keep => simp [evaluate, htarget, htrue]
      | unexpected => simp [evaluate, htarget, htrue]

/-- Applying an axis sets its condition, and a failure takes it back. -/
theorem isTrue_completeApply (b : Blueprint) (axis : Axis) (error : Option String) :
    (b.completeApply axis error now).blueprint.conditions.isTrue axis.conditionType
      = error.isNone := by
  cases error <;> simp [completeApply, Conditions.isTrue_set]

/-- The condition of an axis holds after an operation if the operation applies the axis, or if it
has held before and the operation does not take it back. -/
theorem isTrue_perform_iff (h : b.conditions.Admissible) :
    (b.perform now o).blueprint.conditions.isTrue axis.conditionType = true ↔
      o = .completeApply axis none ∨
        b.conditions.isTrue axis.conditionType = true ∧ o.takesBack axis b.diff = false := by
  by_cases hlane : o.lane = some axis.conditionType
  · obtain ⟨error, rfl⟩ | ⟨error, rfl⟩ := Operation.lane_eq_conditionType_iff.mp hlane
    · simp [perform, isTrue_evaluate h]
    · cases error <;> simp [perform, isTrue_completeApply, Operation.takesBack]
  · have hother : o ≠ .completeApply axis none := by
      rintro rfl
      exact hlane rfl
    simp [Conditions.isTrue, b.find?_perform now hlane, takesBack_of_lane hlane, hother]

/-! ## Histories -/

theorem admissible_performAll (h : b.conditions.Admissible) (history : List (Operation × Stamp)) :
    (b.performAll history).conditions.Admissible := by
  induction history generalizing b with
  | nil => exact h
  | cons p rest ih => exact ih (admissible_perform h p.2 p.1)

/-- An axis has been applied in a history that starts with this blueprint. Since the last time no
operation has taken that back, given the state diff of the blueprint at that moment. -/
def AppliedIn (b : Blueprint) (axis : Axis) (history : List (Operation × Stamp)) : Prop :=
  ∃ before now after, history = before ++ (.completeApply axis none, now) :: after ∧
    ∀ early o time, early ++ [(o, time)] <+: after → o ≠ .completeApply axis none ∧
      o.takesBack axis
        (b.performAll (before ++ (.completeApply axis none, now) :: early)).diff = false

theorem not_appliedIn_nil (b : Blueprint) (axis : Axis) : ¬ b.AppliedIn axis [] := by
  rintro ⟨before, now, after, h, -⟩
  simp at h

/-- One more operation in a history. -/
theorem appliedIn_concat_iff : b.AppliedIn axis (history ++ [(o, now)]) ↔
    o = .completeApply axis none ∨
      b.AppliedIn axis history ∧ o.takesBack axis (b.performAll history).diff = false := by
  constructor
  · rintro ⟨before, applied, after, heq, hafter⟩
    obtain rfl | ⟨earlier, last, rfl⟩ := List.eq_nil_or_concat after
    · obtain ⟨-, hlast⟩ := List.append_inj' heq rfl
      simp only [List.cons.injEq, Prod.mk.injEq, and_true] at hlast
      exact .inl hlast.1
    · rw [List.concat_eq_append] at heq hafter
      have hsplit : history ++ [(o, now)]
          = (before ++ (.completeApply axis none, applied) :: earlier) ++ [last] := by
        simpa using heq
      obtain ⟨rfl, hlast⟩ := List.append_inj' hsplit rfl
      obtain rfl : (o, now) = last := List.singleton_inj.mp hlast
      refine .inr ⟨⟨before, applied, earlier, rfl, ?_⟩, (hafter earlier o now ?_).2⟩
      · intro early o' time hearly
        exact hafter early o' time (hearly.trans (List.prefix_append _ _))
      · exact List.prefix_rfl
  · rintro (rfl | ⟨⟨before, applied, after, rfl, hafter⟩, hkept⟩)
    · refine ⟨history, now, [], rfl, ?_⟩
      intro early o time hearly
      simp at hearly
    · by_cases ho : o = .completeApply axis none
      · refine ⟨before ++ (.completeApply axis none, applied) :: after, now, [], by rw [ho], ?_⟩
        intro early o time hearly
        simp at hearly
      · refine ⟨before, applied, after ++ [(o, now)], by simp, ?_⟩
        intro early o' time hearly
        obtain heq | hearly := List.prefix_concat_iff.mp hearly
        · obtain ⟨rfl, hlast⟩ := List.append_inj' heq rfl
          obtain ⟨rfl, rfl⟩ : o' = o ∧ time = now := by simpa using hlast
          exact ⟨ho, hkept⟩
        · exact hafter early o' time hearly

/-- **True is only claimed after an apply.** Whatever is done to a new blueprint, the condition of
an axis holds exactly if the axis has been applied, and since the last time there has been no
failure to apply it, no look at it with an error of the diff, and no look at it without an error
while its diff had changes. -/
theorem isTrue_iff_appliedIn (id : String) (config : BlueprintConfig) (axis : Axis)
    (history : List (Operation × Stamp)) :
    ((fresh id config).performAll history).conditions.isTrue axis.conditionType = true ↔
      (fresh id config).AppliedIn axis history := by
  induction history using List.reverseRecOn with
  | nil =>
    have hnew : (fresh id config).conditions.isTrue axis.conditionType = false := rfl
    simp [hnew, not_appliedIn_nil]
  | append_singleton history p ih =>
    obtain ⟨o, now⟩ := p
    have hadmissible : ((fresh id config).performAll history).conditions.Admissible :=
      admissible_performAll Conditions.admissible_empty history
    rw [performAll_append, performAll_cons, performAll_nil, isTrue_perform_iff hadmissible, ih,
      appliedIn_concat_iff]

end Blueprint
end BlueprintControl
