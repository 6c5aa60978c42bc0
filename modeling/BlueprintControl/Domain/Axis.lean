import BlueprintControl.Domain.Condition
import BlueprintControl.Domain.Diff

/-!
# Apply axes

Dogus and components are applied in the same way. Each is an axis with a condition of its own
and a part of the state diff.

## Main definitions

* `Axis`: dogus or components.
* `Axis.hasChanges`, `Axis.actionCounts`: what the axis needs according to a diff.
-/
namespace BlueprintControl

/-- What is applied in one go. -/
inductive Axis where
  | dogus
  | components
  deriving DecidableEq, Repr

namespace Axis

/-- The name of an axis. -/
def name : Axis → String
  | .dogus => "dogus"
  | .components => "components"

/-- The name of one thing on the axis. -/
def singular : Axis → String
  | .dogus => "dogu"
  | .components => "component"

/-- All axes with their names. -/
def table : List (String × Axis) := [.dogus, .components].map fun a => (a.name, a)

/-- The condition that reports on the axis. -/
def conditionType : Axis → ConditionType
  | .dogus => .dogusApplied
  | .components => .componentsApplied

/-- The entries of the axis in a diff. -/
def entries (a : Axis) (d : StateDiff) : List (DiffEntry Snapshot Action) :=
  match a with
  | .dogus => d.dogus
  | .components => d.components

/-- Whether the axis needs an action. -/
def hasChanges (a : Axis) (d : StateDiff) : Bool := anyChanges (a.entries d)

/-- How often each action is needed on the axis. -/
def actionCounts (a : Axis) (d : StateDiff) : List (String × Nat) :=
  (countActions (a.entries d)).map fun (k, n) => (k.token, n)

end Axis
end BlueprintControl
