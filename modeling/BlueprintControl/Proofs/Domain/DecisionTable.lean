import BlueprintControl.Proofs.Domain.Undetermined

/-!
# The decision table of an axis

An axis is evaluated by a table. An error of the diff comes first and makes the axis unknown. Then
an axis that is new, unknown or waiting follows the diff, and one that has been applied waits again
when there are changes. Every other condition stays, whatever its reason is. An evaluation is told
exactly if it changes what the axis shows.

## Main definitions

* `Blueprint.FollowsDiff`, `Blueprint.HasApplied`: the rows of the table for a diff that is known.
* `Axis.finding`: what is told of an axis that is evaluated.
* `Blueprint.Decided`: everything the table says of an evaluation.

## Main statements

* `Blueprint.changed_transition_iff`: a transition tells whether it changes what is shown.
* `Blueprint.decided_evaluate`: evaluating follows the table.
-/
namespace BlueprintControl

/-- What is told of an axis that is evaluated. -/
def Axis.finding (axis : Axis) (error : Option String) (d : StateDiff) : Event :=
  match error with
  | some e => .diffFailed axis e
  | none => .diffDetermined axis (axis.actionCounts d)

namespace Blueprint

variable {b : Blueprint} {axis : Axis} {now : Stamp}

/-! ## Rows -/

/-- The axis is new, unknown or waiting. -/
def FollowsDiff (b : Blueprint) (axis : Axis) : Prop :=
  ∀ c, b.conditions.find? axis.conditionType = some c →
    c.status = .unknown ∨ c.reason = Reason.needToApply

/-- The axis has been found or made as the blueprint wants it, and is not unknown. -/
def HasApplied (b : Blueprint) (axis : Axis) : Prop :=
  ∃ c, b.conditions.find? axis.conditionType = some c ∧
    c.status ≠ .unknown ∧ c.reason = Reason.applied

/-- Everything the table says of an axis that is evaluated. -/
structure Decided (b : Blueprint) (axis : Axis) (error : Option String) (after : Transition) :
    Prop where
  undetermined : ∀ e, error = some e →
    after.blueprint.conditions.Says axis.conditionType .unknown Reason.cannotDetermine e
  waiting : error = none → b.FollowsDiff axis ∨ b.HasApplied axis →
    axis.hasChanges b.diff = true →
      after.blueprint.conditions.Says axis.conditionType .fails Reason.needToApply
        (axis.name ++ " need to be applied")
  nothing : error = none → b.FollowsDiff axis → axis.hasChanges b.diff = false →
    after.blueprint.conditions.Says axis.conditionType .fails Reason.applied
      (axis.name ++ " are already applied")
  kept : error = none → ¬ b.FollowsDiff axis →
    ¬ (b.HasApplied axis ∧ axis.hasChanges b.diff = true) →
      after.blueprint.conditions = b.conditions
  /-- An axis that is absent shows nothing, so a condition that is new counts as a change. -/
  changed_iff : after.changed = true ↔
    after.blueprint.conditions.shown axis.conditionType ≠ b.conditions.shown axis.conditionType
  told : after.blueprint.pending
    = b.pending ++ if after.changed then [axis.finding error b.diff] else []

theorem target_of_followsDiff (h : b.FollowsDiff axis) (changes : Bool) :
    target (b.conditions.find? axis.conditionType) changes = .settle changes := by
  cases hfind : b.conditions.find? axis.conditionType with
  | none => rfl
  | some c =>
    by_cases hunknown : c.status = .unknown
    · simp [target, hunknown]
    · simp [target, (h c hfind).resolve_left hunknown]

theorem target_of_hasApplied (h : b.HasApplied axis) (changes : Bool) :
    target (b.conditions.find? axis.conditionType) changes
      = if changes then .settle true else .keep := by
  obtain ⟨c, hfind, hknown, hreason⟩ := h
  simp [target, hfind, hknown, hreason, Reason.applied, Reason.needToApply, Reason.cannotApply]

/-- An axis that follows the diff is written, and so is one that is applied and has changes. -/
theorem target_of_written {changes : Bool}
    (h : b.FollowsDiff axis ∨ b.HasApplied axis ∧ changes = true) :
    target (b.conditions.find? axis.conditionType) changes = .settle changes := by
  obtain hfollows | ⟨happlied, rfl⟩ := h
  · exact target_of_followsDiff hfollows changes
  · exact target_of_hasApplied happlied true

/-- Any other axis stays, with or without a complaint. -/
theorem target_of_kept {changes : Bool}
    (h : ¬ (b.FollowsDiff axis ∨ b.HasApplied axis ∧ changes = true)) :
    target (b.conditions.find? axis.conditionType) changes = .keep ∨
      target (b.conditions.find? axis.conditionType) changes = .unexpected := by
  obtain ⟨hfollows, happlied⟩ := not_or.mp h
  cases hfind : b.conditions.find? axis.conditionType with
  | none => exact absurd (by simp [FollowsDiff, hfind]) hfollows
  | some c =>
    have hother : ¬ (c.status = .unknown ∨ c.reason = Reason.needToApply) := by
      simpa [FollowsDiff, hfind] using hfollows
    obtain ⟨hknown, hreason⟩ := not_or.mp hother
    by_cases hcannot : c.reason = Reason.cannotApply
    · simp [target, hknown, hcannot, Reason.cannotApply, Reason.needToApply]
    · by_cases hdone : c.reason = Reason.applied
      · have hrow : b.HasApplied axis := ⟨c, hfind, hknown, hdone⟩
        obtain rfl : changes = false := by simpa [hrow] using happlied
        have htarget := target_of_hasApplied hrow false
        rw [hfind] at htarget
        exact .inl htarget
      · simp [target, hknown, hreason, hcannot, hdone]

/-! ## Changes -/

/-- A transition says that it changed something exactly if it changes what its type shows. -/
theorem changed_transition_iff {t : ConditionType} {s : Status} {reason message : String}
    {always : Bool} {event : Option Event} :
    (b.transition t s reason message now always event).changed = true ↔
      (b.transition t s reason message now always event).blueprint.conditions.shown t
        ≠ b.conditions.shown t := by
  rw [conditions_transition, Conditions.shown_set]
  exact Conditions.changes_eq_true_iff.trans ne_comm

/-! ## Evaluation -/

/-- What an evaluation does when the axis is to be written. -/
theorem evaluate_of_settle {waiting : Bool}
    (h : target (b.conditions.find? axis.conditionType) (axis.hasChanges b.diff)
      = .settle waiting) :
    b.evaluate axis none now
      = b.transition axis.conditionType .fails
          (if waiting then Reason.needToApply else Reason.applied)
          (axis.name ++ if waiting then " need to be applied" else " are already applied") now false
          (some (axis.finding none b.diff)) := by
  cases waiting <;> simp [evaluate, h, Axis.finding]

/-- What an evaluation does when the axis is to stay. -/
theorem evaluate_of_stay
    (h : target (b.conditions.find? axis.conditionType) (axis.hasChanges b.diff) = .keep ∨
      target (b.conditions.find? axis.conditionType) (axis.hasChanges b.diff) = .unexpected) :
    (b.evaluate axis none now).blueprint = b ∧ (b.evaluate axis none now).changed = false := by
  obtain h | h := h <;> simp [evaluate, h]

/-- An evaluation is a transition of its axis that tells what was found, or it changes nothing. -/
theorem evaluate_cases (b : Blueprint) (axis : Axis) (error : Option String) (now : Stamp) :
    (∃ s reason message, b.evaluate axis error now
      = b.transition axis.conditionType s reason message now false
          (some (axis.finding error b.diff))) ∨
      (b.evaluate axis error now).blueprint = b ∧ (b.evaluate axis error now).changed = false := by
  cases error with
  | some e => exact .inl ⟨_, _, _, rfl⟩
  | none =>
    by_cases hrow : b.FollowsDiff axis ∨ b.HasApplied axis ∧ axis.hasChanges b.diff = true
    · exact .inl ⟨_, _, _, evaluate_of_settle (target_of_written hrow)⟩
    · exact .inr (evaluate_of_stay (target_of_kept hrow))

/-- An evaluation says that it changed something exactly if it changes what the axis shows. -/
theorem changed_evaluate_iff (b : Blueprint) (axis : Axis) (error : Option String) (now : Stamp) :
    (b.evaluate axis error now).changed = true ↔
      (b.evaluate axis error now).blueprint.conditions.shown axis.conditionType
        ≠ b.conditions.shown axis.conditionType := by
  obtain ⟨s, reason, message, hwritten⟩ | ⟨hsame, hunchanged⟩ := b.evaluate_cases axis error now
  · rw [hwritten]
    exact changed_transition_iff
  · simp [hsame, hunchanged]

/-- An evaluation is told exactly if it changes something. -/
theorem pending_evaluate (b : Blueprint) (axis : Axis) (error : Option String) (now : Stamp) :
    (b.evaluate axis error now).blueprint.pending = b.pending ++
      if (b.evaluate axis error now).changed then [axis.finding error b.diff] else [] := by
  obtain ⟨s, reason, message, hwritten⟩ | ⟨hsame, hunchanged⟩ := b.evaluate_cases axis error now
  · rw [hwritten, pending_transition, Bool.or_false]
    rfl
  · simp [hsame, hunchanged]

/-- What is written of an axis whose diff is known. -/
theorem says_evaluate
    (h : b.FollowsDiff axis ∨ b.HasApplied axis ∧ axis.hasChanges b.diff = true) (now : Stamp) :
    (b.evaluate axis none now).blueprint.conditions.Says axis.conditionType .fails
      (if axis.hasChanges b.diff then Reason.needToApply else Reason.applied)
      (axis.name ++
        if axis.hasChanges b.diff then " need to be applied" else " are already applied") := by
  rw [evaluate_of_settle (target_of_written h), conditions_transition]
  exact Conditions.says_set

/-- **Evaluating an axis follows the decision table**, for every condition that may be stored. -/
theorem decided_evaluate (b : Blueprint) (axis : Axis) (error : Option String) (now : Stamp) :
    b.Decided axis error (b.evaluate axis error now) := by
  refine ⟨?undetermined, ?waiting, ?nothing, ?kept, b.changed_evaluate_iff axis error now,
    b.pending_evaluate axis error now⟩
  case undetermined =>
    rintro e rfl
    rw [conditions_evaluate_error]
    exact Conditions.says_set
  case waiting =>
    rintro rfl hrow hchanges
    have hsays := says_evaluate (hrow.imp_right fun happlied => ⟨happlied, hchanges⟩) now
    simpa only [hchanges, if_pos] using hsays
  case nothing =>
    rintro rfl hfollows hchanges
    have hsays := says_evaluate (.inl hfollows) now
    simpa [hchanges] using hsays
  case kept =>
    rintro rfl hfollows happlied
    rw [(evaluate_of_stay (target_of_kept (not_or.mpr ⟨hfollows, happlied⟩))).1]

end Blueprint
end BlueprintControl
