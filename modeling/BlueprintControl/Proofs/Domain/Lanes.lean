import BlueprintControl.Proofs.Domain.Frame
import BlueprintControl.Proofs.Domain.Operations

/-!
# Lanes

Every operation has a lane, the one type of condition that it may write. It leaves the conditions
of all other types as they are and in their order, and what it tells is about its lane as well.
A rejection has no lane, and neither have a new state diff and the publication of events.

## Main definitions

* `Operation.lane`, `Event.lane`: the type of condition that an operation or an event is about.
* `Operation.IsEngine`: the operations that move the lifecycle of a blueprint.
* `Blueprint.KeepsLane`: what can be done to a blueprint in one lane.

## Main statements

* `Operation.lane_eq_conditionType_iff`: what can be done to an axis.
* `Blueprint.keepsLane_perform`: every operation keeps its lane.
* `Blueprint.find?_perform`: what is seen of the other types does not change.
* `Blueprint.lane_of_mem_appended`: an operation tells of its lane.
* `Blueprint.stays_in_lane`: all that an operation of the engine leaves alone.
-/
namespace BlueprintControl

/-- The type of condition that an operation may write. -/
def Operation.lane : Operation → Option ConditionType
  | .evaluate axis _ | .completeApply axis _ => some axis.conditionType
  | .startConfig | .failConfig _ | .finishConfig => some .configApplied
  | .complete => some .completed
  | .rejectActions _ | .rejectUnhealthy _ | .replaceDiff _ | .drain => none

/-- The type of condition that an event tells of. -/
def Event.lane : Event → Option ConditionType
  | .diffDetermined axis _ | .diffFailed axis _ | .applyFailed axis _ | .applied axis =>
    some axis.conditionType
  | .configApplying | .configApplyFailed _ | .configApplied => some .configApplied
  | .completed => some .completed
  | .actionsNotAllowed _ | .ecosystemUnhealthy _ => none

/-- The operation moves the lifecycle: it neither brings a new state diff nor forgets events. -/
def Operation.IsEngine : Operation → Prop
  | .replaceDiff _ | .drain => False
  | _ => True

/-! ## Lanes of axes -/

namespace Axis

theorem conditionType_inj {a b : Axis} : a.conditionType = b.conditionType ↔ a = b := by
  cases a <;> cases b <;> decide

theorem conditionType_ne (axis : Axis) :
    axis.conditionType ≠ .configApplied ∧ axis.conditionType ≠ .completed := by
  cases axis <;> decide

end Axis

/-- In the lane of an axis there are its evaluations and the ends of attempts to apply it. -/
theorem Operation.lane_eq_conditionType_iff {o : Operation} {axis : Axis} :
    o.lane = some axis.conditionType ↔
      (∃ error, o = .evaluate axis error) ∨ ∃ error, o = .completeApply axis error := by
  constructor
  · intro h
    cases o with
    | evaluate a error =>
      obtain rfl : a = axis := Axis.conditionType_inj.mp (Option.some.inj h)
      exact .inl ⟨error, rfl⟩
    | completeApply a error =>
      obtain rfl : a = axis := Axis.conditionType_inj.mp (Option.some.inj h)
      exact .inr ⟨error, rfl⟩
    | startConfig | failConfig _ | finishConfig =>
      exact absurd (Option.some.inj h).symm axis.conditionType_ne.1
    | complete => exact absurd (Option.some.inj h).symm axis.conditionType_ne.2
    | rejectActions _ | rejectUnhealthy _ | replaceDiff _ | drain => cases h
  · rintro (⟨error, rfl⟩ | ⟨error, rfl⟩) <;> rfl

/-! ## One operation -/

namespace Blueprint

variable {b : Blueprint} {now : Stamp} {o : Operation}

/-- What can be done to a blueprint in one lane: the conditions of all other types stay, and at
most one event is appended, which is about the lane. -/
structure KeepsLane (b : Blueprint) (lane : Option ConditionType) (b' : Blueprint) : Prop where
  besides : b'.conditions.besides lane = b.conditions.besides lane
  told : ∃ new : Option Event, b'.pending = b.pending ++ new.toList ∧ ∀ e ∈ new, e.lane = lane

theorem keepsLane_refl (lane : Option ConditionType) : b.KeepsLane lane b :=
  ⟨rfl, none, by simp, by simp⟩

theorem keepsLane_record (e : Event) : b.KeepsLane e.lane (b.record e) :=
  ⟨rfl, some e, rfl, by simp⟩

theorem keepsLane_transition {t : ConditionType} {s : Status} {reason message : String}
    {always : Bool} {event : Option Event} (h : ∀ e ∈ event, e.lane = some t) :
    b.KeepsLane (some t) (b.transition t s reason message now always event).blueprint := by
  refine ⟨?besides, ?told⟩
  case besides =>
    rw [conditions_transition]
    exact Conditions.besides_set
  case told =>
    refine ⟨if b.conditions.changes t s reason || always then event else none, ?_, ?_⟩
    · rw [pending_transition]
      split <;> rfl
    · intro e he
      split at he
      · exact h e he
      · cases he

theorem keepsLane_evaluate (axis : Axis) (error : Option String) :
    b.KeepsLane (some axis.conditionType) (b.evaluate axis error now).blueprint := by
  cases error with
  | some e => exact keepsLane_transition (by simp [Event.lane])
  | none =>
    simp only [evaluate]
    split
    case h_1 => exact keepsLane_transition (by simp [Event.lane])
    case h_2 => exact keepsLane_transition (by simp [Event.lane])
    case h_3 => exact keepsLane_refl _
    case h_4 => exact keepsLane_refl _

theorem keepsLane_completeApply (axis : Axis) (error : Option String) :
    b.KeepsLane (some axis.conditionType) (b.completeApply axis error now).blueprint := by
  cases error with
  | some e => exact keepsLane_transition (by simp [Event.lane])
  | none =>
    refine keepsLane_transition fun e he => ?_
    split at he
    case isTrue =>
      cases Option.mem_some.mp he
      rfl
    case isFalse => simp at he

/-- Every operation keeps its lane, except that one of them forgets the pending events. -/
theorem keepsLane_perform (b : Blueprint) (now : Stamp) (h : o ≠ .drain) :
    b.KeepsLane o.lane (b.perform now o).blueprint := by
  cases o with
  | evaluate axis error => exact keepsLane_evaluate axis error
  | completeApply axis error => exact keepsLane_completeApply axis error
  | startConfig => exact keepsLane_transition (by simp [Event.lane])
  | failConfig error => exact keepsLane_transition (by simp [Event.lane])
  | finishConfig => exact keepsLane_transition (by simp [Event.lane])
  | complete => exact keepsLane_transition (by simp [Event.lane])
  | rejectActions error => exact keepsLane_record (.actionsNotAllowed error)
  | rejectUnhealthy error => exact keepsLane_record (.ecosystemUnhealthy error)
  | replaceDiff diff => exact ⟨rfl, none, by simp [perform], by simp⟩
  | drain => exact absurd rfl h

theorem besides_perform (b : Blueprint) (now : Stamp) (o : Operation) :
    (b.perform now o).blueprint.conditions.besides o.lane = b.conditions.besides o.lane := by
  by_cases h : o = .drain
  · rw [h]
    rfl
  · exact (b.keepsLane_perform now h).besides

/-- What is seen of a type changes only in its lane. -/
theorem find?_perform (b : Blueprint) (now : Stamp) {t : ConditionType} (h : o.lane ≠ some t) :
    (b.perform now o).blueprint.conditions.find? t = b.conditions.find? t :=
  Conditions.find?_of_besides (b.besides_perform now o) h

/-- What an operation tells is about its lane. -/
theorem lane_of_mem_appended {e : Event} (h : e ∈ b.appended now o) : e.lane = o.lane := by
  by_cases ho : o = .drain
  · simp [ho, appended, perform, drained] at h
  · obtain ⟨new, hpending, hlane⟩ := (b.keepsLane_perform now ho).told
    rw [appended, hpending, List.drop_left, Option.mem_toList] at h
    exact hlane e h

/-- Only one operation brings a new state diff. -/
theorem diff_perform (h : ∀ d, o ≠ .replaceDiff d) :
    (b.perform now o).blueprint.diff = b.diff := by
  cases o with
  | replaceDiff diff => exact absurd rfl (h diff)
  | _ =>
    simp [perform, startConfig, failConfig, finishConfig, complete, rejectActions, rejectUnhealthy,
      record, drained]

/-- **Operations stay in their lane.** An operation of the engine leaves the conditions of all types
but its own as they are and in their order, and it leaves identifier, flags, state diff and version
alone. It appends at most one event. The two rejections, which have no lane, leave every condition
alone. This holds for documents that list a type twice, too. -/
theorem stays_in_lane (b : Blueprint) (now : Stamp) (h : o.IsEngine) :
    let b' := (b.perform now o).blueprint
    b'.conditions.besides o.lane = b.conditions.besides o.lane ∧
      (b'.id = b.id ∧ b'.config = b.config ∧ b'.diff = b.diff ∧ b'.version = b.version) ∧
      (∃ new : Option Event, b'.pending = b.pending ++ new.toList) ∧
      (o.lane = none → b'.conditions = b.conditions) := by
  have hdrain : o ≠ .drain := by
    rintro rfl
    exact h
  have hdiff : ∀ d, o ≠ .replaceDiff d := by
    rintro d rfl
    exact h
  have hkeeps := b.keepsLane_perform now hdrain
  obtain ⟨hid, hconfig, hversion⟩ := b.perform_frame now o
  obtain ⟨new, hpending, -⟩ := hkeeps.told
  refine ⟨hkeeps.besides, ⟨hid, hconfig, diff_perform hdiff, hversion⟩, ⟨new, hpending⟩, ?_⟩
  intro hlane
  have hentries := hkeeps.besides
  rw [hlane, Conditions.besides_none, Conditions.besides_none] at hentries
  exact congrArg Conditions.mk hentries

/-- A blueprint whose dogus are applied, whose components wait and whose config is applied, with an
event that has not been published. -/
def halfway : Blueprint :=
  { fresh "blueprint-1" .plain with
    conditions := ⟨[⟨.dogusApplied, .holds, Reason.applied, "dogus applied", default⟩,
      ⟨.componentsApplied, .fails, Reason.needToApply, "components need to be applied", default⟩,
      ⟨.configApplied, .holds, Reason.applied, "ecosystem config applied", default⟩]⟩
    pending := [.configApplied] }

/-- A failure to apply the components, in the middle of the list. -/
theorem lane_of_components :
    let o := Operation.completeApply .components (some "timeout")
    let b' := (halfway.perform default o).blueprint
    o.IsEngine ∧
      b'.conditions.besides (some .componentsApplied)
        = [⟨.dogusApplied, .holds, Reason.applied, "dogus applied", default⟩,
          ⟨.configApplied, .holds, Reason.applied, "ecosystem config applied", default⟩] ∧
      b'.version = none ∧ ∃ new : Option Event, b'.pending = [.configApplied] ++ new.toList := by
  have hengine : (Operation.completeApply .components (some "timeout")).IsEngine := trivial
  obtain ⟨hbesides, ⟨-, -, -, hversion⟩, hpending, -⟩ := stays_in_lane halfway default hengine
  exact ⟨hengine, hbesides.trans rfl, hversion, hpending⟩

end Blueprint
end BlueprintControl
