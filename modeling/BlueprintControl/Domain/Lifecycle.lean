import BlueprintControl.Domain.Blueprint
import BlueprintControl.Domain.Log

/-!
# The lifecycle of a blueprint

Each operation here is one transition of a blueprint: it writes at most one condition, appends
at most one event and says whether the condition changed. The caller decides when to store.

The condition of an apply axis follows a decision table. An error of the diff forces it to
unknown. Without an error a condition that is new, unknown or waiting follows the diff; one that
is applied moves only when there are changes; one that could not be applied stays.

There is no entry for a reason that an axis cannot have. A debug build stops there at an assertion.
What is described here is a release build, which has no such assertion: it reports the condition and
leaves it as it is.

## Main definitions

* `Transition`: the blueprint after an operation, and whether its condition changed.
* `Blueprint.evaluate`, `Blueprint.completeApply`: the apply axes.
* `Blueprint.startConfig`, `Blueprint.failConfig`, `Blueprint.finishConfig`: the config.
* `Blueprint.complete`: the latch set by a pass that finds nothing to do.
-/
namespace BlueprintControl

/-- The result of an operation. -/
structure Transition where
  blueprint : Blueprint
  /-- Whether the condition is new, or its status or reason changed. -/
  changed : Bool
  /-- What the operator has to know. -/
  log : List Log.Line

namespace Blueprint

/-- Writes a condition and appends an event. -/
def transition (b : Blueprint) (t : ConditionType) (s : Status) (reason message : String)
    (now : Stamp) (always : Bool) (event : Option Event) : Transition :=
  let changed := b.conditions.changes t s reason
  let written := { b with conditions := b.conditions.set t s reason message now }
  let blueprint := match event with
    | some e => if changed || always then written.record e else written
    | none => written
  ⟨blueprint, changed, []⟩

/-- What a condition of an axis is to become. -/
inductive Target where
  /-- It is written, as waiting or as applied. -/
  | settle (waiting : Bool)
  /-- It stays as it is. -/
  | keep
  /-- It stays, although its reason is none that an axis can have. Only a debug build asserts that
  this does not happen. -/
  | unexpected
  deriving DecidableEq, Repr

/-- The decision table for a diff that is known. -/
def target (current : Option Condition) (hasChanges : Bool) : Target :=
  match current with
  | none => .settle hasChanges
  | some c =>
    if c.status = .unknown then .settle hasChanges
    else if c.reason = Reason.needToApply then .settle hasChanges
    else if c.reason = Reason.cannotApply then .keep
    else if c.reason = Reason.applied then if hasChanges then .settle true else .keep
    else .unexpected

/-- Evaluates an axis against the state diff, or against the error that prevented it. A condition that
is not expected is reported and left alone, as in a release build, where the assertion against it is
compiled out. -/
def evaluate (b : Blueprint) (axis : Axis) (error : Option String) (now : Stamp) : Transition :=
  match error with
  | some e =>
    b.transition axis.conditionType .unknown Reason.cannotDetermine e now false
      (some (.diffFailed axis e))
  | none =>
    let counted := Event.diffDetermined axis (axis.actionCounts b.diff)
    match target (b.conditions.find? axis.conditionType) (axis.hasChanges b.diff) with
    | .settle true =>
      b.transition axis.conditionType .fails Reason.needToApply
        (axis.name ++ " need to be applied") now false (some counted)
    | .settle false =>
      b.transition axis.conditionType .fails Reason.applied
        (axis.name ++ " are already applied") now false (some counted)
    | .keep => ⟨b, false, []⟩
    | .unexpected =>
      ⟨b, false, [⟨.error, "unexpected condition while evaluating state diff"⟩]⟩

/-- Records how applying an axis ended. A failure is always told, a success only if there was
something to apply. -/
def completeApply (b : Blueprint) (axis : Axis) (error : Option String) (now : Stamp) :
    Transition :=
  match error with
  | some e =>
    b.transition axis.conditionType .fails Reason.cannotApply e now true
      (some (.applyFailed axis e))
  | none =>
    b.transition axis.conditionType .holds Reason.applied (axis.name ++ " applied") now true
      (if axis.hasChanges b.diff then some (.applied axis) else none)

/-- The config is being applied. -/
def startConfig (b : Blueprint) (now : Stamp) : Transition :=
  b.transition .configApplied .fails Reason.applying "apply ecosystem config" now false
    (some .configApplying)

/-- Applying the config failed. -/
def failConfig (b : Blueprint) (error : String) (now : Stamp) : Transition :=
  b.transition .configApplied .fails Reason.applyingFailed error now false
    (some (.configApplyFailed error))

/-- The config is applied. -/
def finishConfig (b : Blueprint) (now : Stamp) : Transition :=
  b.transition .configApplied .holds Reason.applied "ecosystem config applied" now false
    (some .configApplied)

/-- The blueprint is applied completely. -/
def complete (b : Blueprint) (now : Stamp) : Transition :=
  b.transition .completed .holds Reason.completed "blueprint was successfully applied" now false
    (some .completed)

/-- The diff asks for actions that are not allowed. -/
def rejectActions (b : Blueprint) (error : String) : Blueprint :=
  b.record (.actionsNotAllowed error)

/-- The ecosystem is not healthy enough. -/
def rejectUnhealthy (b : Blueprint) (error : String) : Blueprint :=
  b.record (.ecosystemUnhealthy error)

end Blueprint
end BlueprintControl
