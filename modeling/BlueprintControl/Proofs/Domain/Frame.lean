import BlueprintControl.Domain.Operation

/-!
# What the operations on a blueprint leave alone

The operations in memory write conditions and record events. The identifier, the flags and the
version stay as they are, and all but one operation leave the state diff alone.
-/
namespace BlueprintControl.Blueprint

variable (b : Blueprint) (now : Stamp)

@[simp] theorem transition_frame (t : ConditionType) (s : Status) (reason message : String)
    (always : Bool) (event : Option Event) :
    (b.transition t s reason message now always event).blueprint.id = b.id ∧
    (b.transition t s reason message now always event).blueprint.config = b.config ∧
    (b.transition t s reason message now always event).blueprint.diff = b.diff ∧
    (b.transition t s reason message now always event).blueprint.version = b.version := by
  simp only [transition]
  split
  · split <;> simp [record]
  · simp

@[simp] theorem evaluate_frame (axis : Axis) (error : Option String) :
    (b.evaluate axis error now).blueprint.id = b.id ∧
    (b.evaluate axis error now).blueprint.config = b.config ∧
    (b.evaluate axis error now).blueprint.diff = b.diff ∧
    (b.evaluate axis error now).blueprint.version = b.version := by
  simp only [evaluate]
  repeat' split
  all_goals simp

@[simp] theorem completeApply_frame (axis : Axis) (error : Option String) :
    (b.completeApply axis error now).blueprint.id = b.id ∧
    (b.completeApply axis error now).blueprint.config = b.config ∧
    (b.completeApply axis error now).blueprint.diff = b.diff ∧
    (b.completeApply axis error now).blueprint.version = b.version := by
  simp only [completeApply]
  split <;> simp

/-- Only the state diff can be replaced by an operation. -/
@[simp] theorem perform_frame (o : Operation) :
    (b.perform now o).blueprint.id = b.id ∧ (b.perform now o).blueprint.config = b.config ∧
    (b.perform now o).blueprint.version = b.version := by
  cases o <;> simp [perform, startConfig, failConfig, finishConfig, complete, rejectActions,
    rejectUnhealthy, record, drained]

theorem performAll_frame (os : List (Operation × Stamp)) :
    (b.performAll os).id = b.id ∧ (b.performAll os).config = b.config ∧
    (b.performAll os).version = b.version := by
  induction os generalizing b with
  | nil => exact ⟨rfl, rfl, rfl⟩
  | cons p rest ih =>
    obtain ⟨hid, hconfig, hversion⟩ := b.perform_frame p.2 p.1
    rw [performAll_cons, ← hid, ← hconfig, ← hversion]
    exact ih _

end BlueprintControl.Blueprint
