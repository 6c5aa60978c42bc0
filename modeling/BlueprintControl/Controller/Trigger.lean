import BlueprintControl.Domain.Failure
import BlueprintControl.Text.Quoted

/-!
# Triggers

What asks the controller for a pass: somebody says that a blueprint changed, or a pass wants to
run again.

## Main definitions

* `Trigger`: the two reasons, with the blueprint.
* `Trigger.dropped`: the failure of a trigger that comes after the controller stopped.
-/
namespace BlueprintControl

/-- A reason to run a pass. -/
inductive Trigger where
  /-- A blueprint, or something it depends on, changed. -/
  | notify (key : String)
  /-- A pass is to be run again. -/
  | requeue (key : String)
  deriving DecidableEq, Repr

namespace Trigger

/-- The blueprint of a trigger. -/
def key : Trigger → String
  | .notify key => key
  | .requeue key => key

/-- The name of a trigger with its blueprint. -/
def text : Trigger → String
  | .notify key => "Notify(" ++ Text.quote key ++ ")"
  | .requeue key => "Requeue(" ++ Text.quote key ++ ")"

/-- The failure of a trigger that nobody takes any more. -/
def dropped (t : Trigger) : Failure := .internal ("controller stopped, dropped " ++ t.text)

end Trigger
end BlueprintControl
