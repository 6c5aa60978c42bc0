import BlueprintControl.Domain.Axis

/-!
# Events

Events tell what has been observed of a blueprint. They wait on the blueprint until its new
status is stored and are published with it.

## Main definitions

* `Event`: what can be observed.
* `Event.name`, `Event.message`: how it is published.
-/
namespace BlueprintControl

/-- Something observed of a blueprint. -/
inductive Event where
  /-- What an axis needs is known, with the number of occurrences of each action. -/
  | diffDetermined (axis : Axis) (actions : List (String × Nat))
  | diffFailed (axis : Axis) (error : String)
  | actionsNotAllowed (error : String)
  | ecosystemUnhealthy (error : String)
  | applyFailed (axis : Axis) (error : String)
  | applied (axis : Axis)
  | configApplying
  | configApplyFailed (error : String)
  | configApplied
  | completed
  deriving DecidableEq, Repr

namespace Event

/-- The name under which an event is published. -/
def name : Event → String
  | .diffDetermined .dogus _ => "StateDiffDoguDetermined"
  | .diffDetermined .components _ => "StateDiffComponentDetermined"
  | .diffFailed .dogus _ => "StateDiffDoguFailed"
  | .diffFailed .components _ => "StateDiffComponentFailed"
  | .actionsNotAllowed _ => "BlueprintSpecInvalid"
  | .ecosystemUnhealthy _ => "EcosystemUnhealthy"
  | .applyFailed .dogus _ => "DogusApplyFailed"
  | .applyFailed .components _ => "ComponentsApplyFailed"
  | .applied .dogus => "DogusApplied"
  | .applied .components => "ComponentsApplied"
  | .configApplying => "ApplyEcosystemConfig"
  | .configApplyFailed _ => "ApplyEcosystemConfigFailed"
  | .configApplied => "EcosystemConfigApplied"
  | .completed => "BlueprintApplied"

/-- How often any action is needed. -/
def total (actions : List (String × Nat)) : Nat := actions.foldl (fun n a => n + a.2) 0

/-- The actions with their numbers. -/
def details (actions : List (String × Nat)) : String :=
  ", ".intercalate (actions.map fun (a, n) => "\"" ++ a ++ "\": " ++ toString n)

/-- What is said about a determined diff. -/
def determinedMessage (axis : Axis) (actions : List (String × Nat)) : String :=
  if total actions = 0 then axis.singular ++ " state diff determined: no changes"
  else axis.singular ++ " state diff determined: " ++ toString (total actions) ++ " actions ("
    ++ details actions ++ ")"

/-- What is said about an event. -/
def message : Event → String
  | .diffDetermined axis actions => determinedMessage axis actions
  | .diffFailed axis error => "cannot determine " ++ axis.singular ++ " state diff: " ++ error
  | .actionsNotAllowed error =>
    "blueprint spec contains actions that are not allowed: " ++ error
  | .ecosystemUnhealthy error => "ecosystem is unhealthy: " ++ error
  | .applyFailed axis error => "cannot apply " ++ axis.name ++ ": " ++ error
  | .applied axis => axis.name ++ " applied"
  | .configApplying => "apply ecosystem config"
  | .configApplyFailed error => "ecosystem config could not be applied: " ++ error
  | .configApplied => "ecosystem config applied"
  | .completed => "blueprint was successfully applied"

/-- Name and message. -/
def text (e : Event) : String := e.name ++ ": " ++ e.message

end Event
end BlueprintControl
