import BlueprintControl.Domain.Blueprint

/-!
# Actions that are not allowed

Some actions are too dangerous to be taken unattended. A policy lists them for dogus and for
components; a diff that needs one of them is refused with a list of all offences.

## Main definitions

* `ActionPolicy`: the two deny-lists.
* `ActionPolicy.violations`: every offence, dogus first.
* `ActionPolicy.validate`: accepts a diff or says what is wrong with it.
-/
namespace BlueprintControl

/-- The actions that are never taken on dogus and on components. -/
structure ActionPolicy where
  deniedDogu : List Action
  deniedComponent : List Action
  deriving DecidableEq, Repr

namespace ActionPolicy

/-- Downgrades and changes of the namespace are denied. -/
def standard : ActionPolicy :=
  ⟨[.downgrade, .switchDoguNamespace], [.downgrade, .switchComponentNamespace]⟩

instance : Inhabited ActionPolicy := ⟨standard⟩

/-- What is said about an offence. -/
def violationText (kind : String) (a : Action) (name : String) : String :=
  "action \"" ++ a.token ++ "\" is not allowed for " ++ kind ++ " \"" ++ name ++ "\""

/-- Whether an action is denied; the switch of a dogu namespace can be allowed. -/
def denies (denied : List Action) (allowSwitch : Bool) (a : Action) : Bool :=
  denied.contains a && !(a == .switchDoguNamespace && allowSwitch)

/-- The offences of a list of entries. -/
def offences (kind : String) (denied : List Action) (allowSwitch : Bool)
    (es : List (DiffEntry Snapshot Action)) : List String :=
  es.flatMap fun e =>
    (e.needed.filter (denies denied allowSwitch)).map fun a => violationText kind a e.name

/-- All offences of a diff, dogus first. -/
def violations (p : ActionPolicy) (d : StateDiff) (allowSwitch : Bool) : List String :=
  offences "dogu" p.deniedDogu allowSwitch d.dogus
    ++ offences "component" p.deniedComponent false d.components

/-- Accepts a diff without offences. -/
def validate (p : ActionPolicy) (d : StateDiff) (allowSwitch : Bool) : Except Failure Unit :=
  match p.violations d allowSwitch with
  | [] => .ok ()
  | vs => .error (.invalidBlueprint ("action validation failed: " ++ "; ".intercalate vs))

/-- Reads a policy. -/
def read {ν : Type} (F : Format ν) : ν → Except Fault ActionPolicy :=
  F.record "DiffActionPolicy"
    (((RecordReader.optional "denied_dogu_actions" (F.list (F.oneOf Action.table))
        standard.deniedDogu).both
      (RecordReader.optional "denied_component_actions" (F.list (F.oneOf Action.table))
        standard.deniedComponent)).map fun (d, c) => ⟨d, c⟩)

/-- The policy as a JSON value. -/
def toJson (p : ActionPolicy) : Json.Value :=
  .object [("denied_dogu_actions", .array (p.deniedDogu.map fun a => .string a.token)),
    ("denied_component_actions", .array (p.deniedComponent.map fun a => .string a.token))]

end ActionPolicy
end BlueprintControl
