import BlueprintControl.Proofs.Domain.Lanes

/-!
# Blueprints at rest

What a set of conditions says of a type is its status, its reason and its message. Writing again
what is said already changes nothing: no condition, no time, and there is no event. So an axis that
has been evaluated is settled until its diff changes, and a blueprint that has been completed stays
as it is when everything is applied again.

## Main definitions

* `Conditions.Says`: status, reason and message of a type.
* `Blueprint.IsSettled`: evaluating an axis changes nothing.
* `ConditionType.closing`: what is said of each type at the end of a pass that completes.

## Main statements

* `Conditions.Says.set_eq`, `Blueprint.transition_of_says`: saying it again changes nothing.
* `Blueprint.isSettled_evaluate`, `Blueprint.evaluate_of_isSettled`: evaluating settles an axis.
* `Blueprint.completeApply_of_says`: applying nothing once more changes nothing.
-/
namespace BlueprintControl

namespace Conditions

variable {cs : Conditions} {t u : ConditionType} {s s' : Status}
  {reason message reason' message' : String} {now : Stamp}

/-- The condition of a type is there, with this status, this reason and this message. -/
def Says (cs : Conditions) (t : ConditionType) (s : Status) (reason message : String) : Prop :=
  ∃ since, cs.find? t = some ⟨t, s, reason, message, since⟩

/-- What a write says of its type. The time stays while status and reason do. -/
theorem exists_find?_set (cs : Conditions) (t : ConditionType) (s : Status)
    (reason message : String) (now : Stamp) : ∃ since,
      (cs.set t s reason message now).find? t = some ⟨t, s, reason, message, since⟩ ∧
        ∀ c, cs.find? t = some c → c.status = s → c.reason = reason → since = c.since := by
  rw [find?_set_self]
  cases hfind : cs.find? t with
  | none =>
    refine ⟨now, rfl, ?_⟩
    intro c hc
    cases hc
  | some c =>
    have htype := type_of_find? hfind
    by_cases hdiffers : c.differs s reason = true
    · refine ⟨now, by simp [written, Condition.revise, hdiffers, htype], ?_⟩
      rintro c' hc rfl rfl
      cases hc
      simp [Condition.differs] at hdiffers
    · obtain ⟨hs, hr⟩ : c.status = s ∧ c.reason = reason := by
        simpa [Condition.differs] using hdiffers
      subst hs hr htype
      refine ⟨c.since, by simp [written, Condition.revise, Condition.differs], ?_⟩
      intro c' hc hstatus hreason
      cases hc
      rfl

theorem says_set : (cs.set t s reason message now).Says t s reason message := by
  obtain ⟨since, hfind, -⟩ := cs.exists_find?_set t s reason message now
  exact ⟨since, hfind⟩

theorem says_set_of_ne (h : u ≠ t) :
    (cs.set t s reason message now).Says u s' reason' message' ↔ cs.Says u s' reason' message' := by
  simp only [Says, find?_set_of_ne h]

namespace Says

theorem isTrue (h : cs.Says t .holds reason message) : cs.isTrue t = true := by
  obtain ⟨since, h⟩ := h
  simp [Conditions.isTrue, h]

theorem changes_eq_false (h : cs.Says t s reason message) : cs.changes t s reason = false := by
  obtain ⟨since, h⟩ := h
  simp [changes, h, Condition.differs]

/-- Writing what is said already changes nothing, whenever it is written. -/
theorem set_eq (h : cs.Says t s reason message) (now : Stamp) :
    cs.set t s reason message now = cs := by
  obtain ⟨since, h⟩ := h
  obtain ⟨entries⟩ := cs
  simp only [find?, set, mk.injEq] at h ⊢
  induction entries with
  | nil => cases h
  | cons c rest ih =>
    by_cases hc : c.type = t
    · obtain rfl : c = ⟨t, s, reason, message, since⟩ := by simpa [hc] using h
      simp [write, Condition.revise, Condition.differs]
    · simp only [write, if_neg hc]
      rw [ih (by simpa [hc] using h)]

end Says
end Conditions

/-- What is said of each type, with its reason, at the end of a pass that completes. -/
def ConditionType.closing : ConditionType → String × String
  | .dogusApplied => (Reason.applied, Axis.dogus.name ++ " applied")
  | .componentsApplied => (Reason.applied, Axis.components.name ++ " applied")
  | .configApplied => (Reason.applied, "ecosystem config applied")
  | .completed => (Reason.completed, "blueprint was successfully applied")

namespace Blueprint

variable {b b' : Blueprint} {axis other : Axis} {t : ConditionType} {s : Status}
  {reason message : String}

/-- A transition to what is said already changes nothing, and there is no event. -/
theorem transition_of_says (h : b.conditions.Says t s reason message) (now : Stamp)
    {always : Bool} {event : Option Event} (hquiet : always = false ∨ event = none) :
    (b.transition t s reason message now always event).blueprint = b := by
  have hsame : { b with conditions := b.conditions.set t s reason message now } = b := by
    rw [h.set_eq now]
  obtain rfl | rfl := hquiet
  · cases event <;> simp [transition, h.changes_eq_false, hsame]
  · simp [transition, hsame]

/-! ## Evaluating an axis -/

/-- The decision table finds an axis as it is to be for the diff of the blueprint. -/
def IsSettled (b : Blueprint) (axis : Axis) : Prop :=
  match target (b.conditions.find? axis.conditionType) (axis.hasChanges b.diff) with
  | .settle true =>
    b.conditions.Says axis.conditionType .fails Reason.needToApply
      (axis.name ++ " need to be applied")
  | .settle false => False
  | .keep | .unexpected => True

theorem isSettled_congr
    (hfind : b'.conditions.find? axis.conditionType = b.conditions.find? axis.conditionType)
    (hchanges : axis.hasChanges b'.diff = axis.hasChanges b.diff) :
    b'.IsSettled axis ↔ b.IsSettled axis := by
  simp only [IsSettled, Conditions.Says, hfind, hchanges]

/-- Evaluating an axis that is settled changes nothing. -/
theorem evaluate_of_isSettled (h : b.IsSettled axis) (now : Stamp) :
    (b.evaluate axis none now).blueprint = b := by
  unfold IsSettled at h
  unfold evaluate
  cases htarget : target (b.conditions.find? axis.conditionType) (axis.hasChanges b.diff) with
  | settle waiting =>
    rw [htarget] at h
    cases waiting with
    | true => exact transition_of_says h now (.inl rfl)
    | false => exact h.elim
  | keep => rfl
  | unexpected => rfl

/-- What is written waits exactly if there are changes. -/
theorem eq_of_target_settle {current : Option Condition} {hasChanges waiting : Bool}
    (h : target current hasChanges = .settle waiting) : hasChanges = waiting := by
  cases current with
  | none => simpa [target] using h
  | some c =>
    simp only [target] at h
    repeat' split at h
    all_goals simp_all

/-- Evaluating an axis settles it. -/
theorem isSettled_evaluate (b : Blueprint) (axis : Axis) (now : Stamp) :
    (b.evaluate axis none now).blueprint.IsSettled axis := by
  cases htarget : target (b.conditions.find? axis.conditionType) (axis.hasChanges b.diff) with
  | settle waiting =>
    have hchanges := eq_of_target_settle htarget
    cases waiting with
    | true =>
      have hsays : (b.evaluate axis none now).blueprint.conditions.Says axis.conditionType .fails
          Reason.needToApply (axis.name ++ " need to be applied") := by
        simp only [evaluate, htarget, conditions_transition]
        exact Conditions.says_set
      obtain ⟨since, hfind⟩ := hsays
      simp [IsSettled, hfind, hchanges, target, Conditions.Says]
    | false =>
      have hsays : (b.evaluate axis none now).blueprint.conditions.Says axis.conditionType .fails
          Reason.applied (axis.name ++ " are already applied") := by
        simp only [evaluate, htarget, conditions_transition]
        exact Conditions.says_set
      obtain ⟨since, hfind⟩ := hsays
      simp [IsSettled, hfind, hchanges, target, Reason.applied, Reason.needToApply,
        Reason.cannotApply]
  | keep => simp [evaluate, IsSettled, htarget]
  | unexpected => simp [evaluate, IsSettled, htarget]

/-- Evaluating an axis leaves the condition of the other one alone. -/
theorem find?_evaluate_of_ne (h : other ≠ axis) (b : Blueprint) (error : Option String)
    (now : Stamp) :
    (b.evaluate axis error now).blueprint.conditions.find? other.conditionType
      = b.conditions.find? other.conditionType := by
  have hlane : (Operation.evaluate axis error).lane ≠ some other.conditionType := by
    simpa [Operation.lane, Axis.conditionType_inj] using h.symm
  exact b.find?_perform now hlane

theorem IsSettled.evaluate_other (h : b.IsSettled other) (hne : other ≠ axis) (now : Stamp) :
    (b.evaluate axis none now).blueprint.IsSettled other :=
  (isSettled_congr (find?_evaluate_of_ne hne b none now) (by simp)).mpr h

/-! ## Applying again -/

/-- An axis that is applied and has no changes is settled. -/
theorem isSettled_of_says (h : b.conditions.Says axis.conditionType .holds Reason.applied message)
    (hd : axis.hasChanges b.diff = false) : b.IsSettled axis := by
  obtain ⟨since, hfind⟩ := h
  simp [IsSettled, hfind, hd, target, Reason.applied, Reason.needToApply, Reason.cannotApply]

/-- An axis that is applied and has no changes stays as it is when it is applied again. -/
theorem completeApply_of_says
    (h : b.conditions.Says axis.conditionType .holds Reason.applied (axis.name ++ " applied"))
    (hd : axis.hasChanges b.diff = false) (now : Stamp) :
    (b.completeApply axis none now).blueprint = b := by
  refine transition_of_says h now (.inr ?_)
  simp [hd]

end Blueprint
end BlueprintControl
