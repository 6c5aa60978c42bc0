import BlueprintControl.Json.Format
import BlueprintControl.Time.StampReader

/-!
# Conditions

A condition reports how far one axis of a blueprint has come: whether it holds, why, and since
when. A set of conditions is written to one type at a time; the time of a condition moves only
when its status or its reason does.

## Main definitions

* `ConditionType`, `Status`, `Condition`: one condition.
* `Conditions`: conditions in the order in which they were first written.
* `Conditions.set`: writes a condition and tells whether it changed.
-/
namespace BlueprintControl

/-- The axis a condition reports on. -/
inductive ConditionType where
  | dogusApplied
  | componentsApplied
  | configApplied
  | completed
  deriving DecidableEq, Repr

/-- Whether a condition holds. -/
inductive Status where
  | holds
  | fails
  | unknown
  deriving DecidableEq, Repr

/-- The name of a type. -/
def ConditionType.name : ConditionType → String
  | .dogusApplied => "DogusApplied"
  | .componentsApplied => "ComponentsApplied"
  | .configApplied => "ConfigApplied"
  | .completed => "Completed"

/-- The name of a status. -/
def Status.name : Status → String
  | .holds => "True"
  | .fails => "False"
  | .unknown => "Unknown"

/-- All types with their names. -/
def ConditionType.table : List (String × ConditionType) :=
  [.dogusApplied, .componentsApplied, .configApplied, .completed].map fun t => (t.name, t)

/-- All statuses with their names. -/
def Status.table : List (String × Status) :=
  [.holds, .fails, .unknown].map fun s => (s.name, s)

namespace Reason

/-- Changes are pending. -/
def needToApply : String := "NeedToApply"
/-- Nothing is pending. -/
def applied : String := "Applied"
/-- Applying failed. -/
def cannotApply : String := "CannotApply"
/-- The state diff is not known. -/
def cannotDetermine : String := "CannotDetermineStateDiff"
/-- The config is being applied. -/
def applying : String := "Applying"
/-- Applying the config failed. -/
def applyingFailed : String := "ApplyingFailed"
/-- The blueprint is applied completely. -/
def completed : String := "Completed"

end Reason

/-- What is known about one axis. -/
structure Condition where
  type : ConditionType
  status : Status
  reason : String
  message : String
  /-- When status or reason last changed. -/
  since : Stamp
  deriving DecidableEq

/-- Conditions in the order in which they were first written. -/
structure Conditions where
  entries : List Condition
  deriving DecidableEq, Inhabited

namespace Condition

/-- Whether a write with this status and reason changes the condition. -/
def differs (c : Condition) (s : Status) (reason : String) : Bool :=
  c.status != s || c.reason != reason

/-- The condition after a write. The time moves only if status or reason change; the message is
always taken over. -/
def revise (c : Condition) (s : Status) (reason message : String) (now : Stamp) : Condition :=
  if c.differs s reason then ⟨c.type, s, reason, message, now⟩ else { c with message := message }

@[simp] theorem type_revise (c : Condition) (s : Status) (reason message : String)
    (now : Stamp) : (c.revise s reason message now).type = c.type := by
  unfold revise; split <;> rfl

end Condition

namespace Conditions

/-- No conditions. -/
def empty : Conditions := ⟨[]⟩

/-- The first condition of a type. -/
def find? (cs : Conditions) (t : ConditionType) : Option Condition :=
  cs.entries.find? fun c => c.type == t

/-- Whether the condition of a type is there and holds. -/
def isTrue (cs : Conditions) (t : ConditionType) : Bool :=
  match cs.find? t with
  | some c => c.status == .holds
  | none => false

/-- Updates the first condition of a type, or appends one. -/
def write (t : ConditionType) (s : Status) (reason message : String) (now : Stamp) :
    List Condition → List Condition
  | [] => [⟨t, s, reason, message, now⟩]
  | c :: rest =>
    if c.type = t then c.revise s reason message now :: rest
    else c :: write t s reason message now rest

/-- Whether a write changes the set: the type is new, or its status or reason differ. -/
def changes (cs : Conditions) (t : ConditionType) (s : Status) (reason : String) : Bool :=
  match cs.find? t with
  | some c => c.differs s reason
  | none => true

/-- Writes a condition. -/
def set (cs : Conditions) (t : ConditionType) (s : Status) (reason message : String)
    (now : Stamp) : Conditions :=
  ⟨write t s reason message now cs.entries⟩

end Conditions

/-! ## Written form -/

namespace Condition

variable {ν : Type}

/-- Reads a time stamp. -/
def readStamp (F : Format ν) (v : ν) : Except Fault Stamp := do
  let s ← F.text "an RFC 3339 formatted date and time string" v
  match Stamp.parse s with
  | .ok t => return t
  | .error e => throw (.here e.message)

/-- The fields of a condition. -/
def fields (F : Format ν) : RecordReader ν Condition :=
  ((RecordReader.required "type" (F.oneOf ConditionType.table)).both
    ((RecordReader.required "status" (F.oneOf Status.table)).both
      ((RecordReader.required "reason" F.string).both
        ((RecordReader.required "message" F.string).both
          (RecordReader.required "lastTransitionTime" (readStamp F)))))).map
    fun (t, s, r, m, w) => ⟨t, s, r, m, w⟩

/-- Reads a condition. -/
def read (F : Format ν) : ν → Except Fault Condition := F.record "Condition" (fields F)

/-- The condition as a JSON value. -/
def toJson (c : Condition) : Json.Value :=
  .object [("type", .string c.type.name), ("status", .string c.status.name),
    ("reason", .string c.reason), ("message", .string c.message),
    ("lastTransitionTime", .string c.since.render)]

end Condition

namespace Conditions

/-- Reads a list of conditions as it stands. -/
def read {ν : Type} (F : Format ν) (v : ν) : Except Fault Conditions := do
  return ⟨← F.list (Condition.read F) v⟩

/-- The conditions as a JSON value. -/
def toJson (cs : Conditions) : Json.Value := .array (cs.entries.map Condition.toJson)

end Conditions
end BlueprintControl
