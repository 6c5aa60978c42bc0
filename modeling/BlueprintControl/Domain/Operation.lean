import BlueprintControl.Domain.Lifecycle

/-!
# Operations as data

Everything that can be done to a blueprint in memory, so that histories of a blueprint are lists.

## Main definitions

* `Operation`: what can be done.
* `Blueprint.perform`: does it.
* `Blueprint.performAll`: a list of operations, each at its own time.
-/
namespace BlueprintControl

/-- Something that is done to a blueprint. -/
inductive Operation where
  /-- Evaluate an axis, against the error of the diff if there is one. -/
  | evaluate (axis : Axis) (error : Option String)
  /-- Applying an axis has ended, with an error if there is one. -/
  | completeApply (axis : Axis) (error : Option String)
  | startConfig
  | failConfig (error : String)
  | finishConfig
  | complete
  | rejectActions (error : String)
  | rejectUnhealthy (error : String)
  | replaceDiff (diff : StateDiff)
  /-- Forget the pending events. -/
  | drain
  deriving DecidableEq

namespace Blueprint

/-- Carries out an operation. -/
def perform (b : Blueprint) (now : Stamp) : Operation → Transition
  | .evaluate axis error => b.evaluate axis error now
  | .completeApply axis error => b.completeApply axis error now
  | .startConfig => b.startConfig now
  | .failConfig error => b.failConfig error now
  | .finishConfig => b.finishConfig now
  | .complete => b.complete now
  | .rejectActions error => ⟨b.rejectActions error, false, []⟩
  | .rejectUnhealthy error => ⟨b.rejectUnhealthy error, false, []⟩
  | .replaceDiff diff => ⟨{ b with diff := diff }, false, []⟩
  | .drain => ⟨b.drained, false, []⟩

/-- Carries out operations in order. -/
def performAll (b : Blueprint) : List (Operation × Stamp) → Blueprint
  | [] => b
  | (o, now) :: rest => (b.perform now o).blueprint.performAll rest

@[simp] theorem performAll_nil (b : Blueprint) : b.performAll [] = b := rfl

@[simp] theorem performAll_cons (b : Blueprint) (o : Operation) (now : Stamp)
    (rest : List (Operation × Stamp)) :
    b.performAll ((o, now) :: rest) = (b.perform now o).blueprint.performAll rest := rfl

theorem performAll_append (b : Blueprint) (first second : List (Operation × Stamp)) :
    b.performAll (first ++ second) = (b.performAll first).performAll second := by
  induction first generalizing b with
  | nil => rfl
  | cons p rest ih => exact ih _

end Blueprint
end BlueprintControl
