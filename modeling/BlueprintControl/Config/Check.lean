import BlueprintControl.Config.Settings

/-!
# Checking settings

All problems of the settings are found in one go. Warnings do not keep the operator from
starting.

## Main definitions

* `Problem`: a setting and what is wrong with it.
* `Settings.problems`, `Settings.warnings`: everything that is found.
* `Settings.check`: accepts settings without problems.
-/
namespace BlueprintControl

/-- A setting and what is wrong with it. -/
structure Problem where
  field : String
  message : String
  deriving DecidableEq, Repr

/-- A problem, unless there is none. -/
def problemIf (bad : Bool) (field message : String) : List Problem :=
  if bad then [⟨field, message⟩] else []

/-- The longest window, one day. -/
def longestWindowSeconds : UInt64 := 86400

/-- What is wrong with a window. -/
def windowProblems (seconds : UInt64) : List Problem :=
  problemIf (seconds == 0) "debounce.window_secs" "Debounce window must be at least 1 second"
    ++ problemIf (longestWindowSeconds < seconds) "debounce.window_secs"
      ("Debounce window must not exceed " ++ toString longestWindowSeconds ++ " seconds")

/-- Every problem of a delay that is zero. -/
def delayProblem (field : String) (n : UInt64) : List Problem :=
  problemIf (n == 0) field "Delay must be greater than zero"

/-- A thousand times as much, as far as 64 bits go. -/
def thousandfold (n : UInt64) : Nat := min (n.toNat * 1000) (UInt64.size - 1)

namespace RequeueSettings

/-- What is wrong with the delays and the markers. -/
def problems (r : RequeueSettings) : List Problem :=
  delayProblem "requeue.conflict_delay_ms" r.conflictMillis
    ++ delayProblem "requeue.retry_delay_secs" r.retrySeconds
    ++ delayProblem "requeue.diff_not_empty_delay_ms" r.diffNotEmptyMillis
    ++ delayProblem "requeue.error_backoff_base_ms" r.backoffBaseMillis
    ++ delayProblem "requeue.error_backoff_max_secs" r.backoffLongestSeconds
    ++ problemIf (thousandfold r.backoffLongestSeconds < r.backoffBaseMillis.toNat)
      "requeue.error_backoff_base_ms"
      ("Backoff base (" ++ toString r.backoffBaseMillis ++ "ms) exceeds the backoff maximum ("
        ++ toString r.backoffLongestSeconds ++ "s)")
    ++ problemIf (r.markers.any Text.isBlankString) "requeue.missing_resource_markers"
      "Markers cannot be empty strings"

end RequeueSettings

namespace Settings

/-- Everything that is wrong with the settings. -/
def problems (s : Settings) : List Problem :=
  problemIf (Text.isBlankString s.ecosystem) "namespace" "Namespace cannot be empty"
    ++ problemIf s.statePath.isEmpty "state.path" "State path cannot be empty"
    ++ windowProblems s.windowSeconds
    ++ s.requeue.problems

/-- A warning, unless there is no reason for it. -/
def warnIf (odd : Bool) (message : String) : List String := if odd then [message] else []

/-- Settings that are odd and yet can be used. -/
def warnings (s : Settings) : List String :=
  warnIf (s.policy.deniedDogu.contains .switchComponentNamespace)
      ("policy.denied_dogu_actions lists switch-component-namespace, "
        ++ "which never occurs for dogus")
    ++ warnIf (s.policy.deniedComponent.contains .switchDoguNamespace)
      ("policy.denied_component_actions lists switch-dogu-namespace, "
        ++ "which never occurs for components")
    ++ warnIf (s.policy.deniedDogu.isEmpty && s.policy.deniedComponent.isEmpty)
      "No diff actions are denied; downgrades will be applied"

/-- Accepts settings without problems and gives the warnings. -/
def check (s : Settings) : Except ConfigFailure (List String) :=
  match s.problems with
  | [] => .ok s.warnings
  | p :: ps => .error (.validation
      ("; ".intercalate ((p :: ps).map fun p => p.field ++ ": " ++ p.message)) (some p.field))

end Settings
end BlueprintControl
