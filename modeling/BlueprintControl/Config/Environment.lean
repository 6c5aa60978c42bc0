import BlueprintControl.Config.Settings

/-!
# Settings from the environment

Three settings can be overridden by environment variables. Overrides are taken one after the
other: those before a value that cannot be read stay in force.

## Main definitions

* `Environment`: the variables.
* `Settings.overridden`: the settings after the overrides, and what was wrong.
-/
namespace BlueprintControl

/-- The variables with their values. -/
abbrev Environment := List (String × String)

/-- Overrides the ecosystem. -/
def namespaceVariable : String := "BLUEPRINT_NAMESPACE"

/-- Overrides the directory of the stored blueprints. -/
def statePathVariable : String := "BLUEPRINT_STATE_PATH"

/-- Overrides the window of the debouncer. -/
def windowVariable : String := "BLUEPRINT_DEBOUNCE_WINDOW_SECS"

/-- A number of 64 bits in decimal digits, with an optional plus sign. -/
def readCount? (cs : List Char) : Option UInt64 :=
  let digits := match cs with
    | '+' :: rest => rest
    | cs => cs
  if digits.isEmpty || !digits.all Char.isDigit then none
  else
    let n : Nat := digits.foldl (fun n c => n * 10 + (c.toNat - 48)) 0
    if n < UInt64.size then some n.toUInt64 else none

namespace Settings

/-- Takes over the values that are texts. -/
def withTexts (s : Settings) (env : Environment) : Settings :=
  { s with
    ecosystem := (env.lookup namespaceVariable).getD s.ecosystem
    statePath := (env.lookup statePathVariable).getD s.statePath }

/-- The settings after all overrides that can be read, and the failure of the one that
cannot. -/
def overridden (s : Settings) (env : Environment) : Settings × Option ConfigFailure :=
  let s := s.withTexts env
  match env.lookup windowVariable with
  | none => (s, none)
  | some value => match readCount? (Text.trim value.toList) with
    | some n => ({ s with windowSeconds := n }, none)
    | none => (s, some (.invalidEnvVar windowVariable value))

/-- The settings after all overrides, if these can be read. -/
def withEnvironment (s : Settings) (env : Environment) : Except ConfigFailure Settings :=
  match s.overridden env with
  | (s, none) => .ok s
  | (_, some f) => .error f

end Settings
end BlueprintControl
