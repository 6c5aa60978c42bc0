import BlueprintControl.Keyed
import BlueprintControl.Reconcile.Report

/-!
# Statistics of a run

## Main definitions

* `Summary`: what a controller has counted.
* `Summary.finished`: counts a pass that ended.
-/
namespace BlueprintControl

/-- The statistics of a blueprint. -/
structure BlueprintSummary where
  /-- Passes that ran to their end. -/
  passes : Nat
  /-- Passes that ended with a failure. -/
  failures : Nat
  /-- What was decided after the last pass. -/
  lastDecision : Option String
  deriving DecidableEq, Repr

/-- No pass has ended. -/
def BlueprintSummary.initial : BlueprintSummary := ⟨0, 0, none⟩

/-- Counts a pass. -/
def BlueprintSummary.finished (s : BlueprintSummary) (r : Report) : BlueprintSummary :=
  ⟨s.passes + 1, if r.error.isSome then s.failures + 1 else s.failures, some r.decision.text⟩

/-- The statistics of a run. -/
structure Summary where
  /-- Notifications that were handled. -/
  notifications : Nat
  /-- Notifications that the debouncer refused. -/
  debounced : Nat
  blueprints : Keyed BlueprintSummary

namespace Summary

/-- Nothing has happened. -/
def initial : Summary := ⟨0, 0, .empty⟩

/-- The statistics of a blueprint. -/
def of (s : Summary) (key : String) : BlueprintSummary :=
  (s.blueprints.find? key).getD .initial

/-- Counts a notification. -/
def notified (s : Summary) : Summary := { s with notifications := s.notifications + 1 }

/-- Counts a refused notification. -/
def refused (s : Summary) : Summary := { s with debounced := s.debounced + 1 }

/-- Counts a pass that ended. -/
def finished (s : Summary) (key : String) (r : Report) : Summary :=
  { s with blueprints := s.blueprints.put key ((s.of key).finished r) }

/-- The statistics of all blueprints in the order of their identifiers. -/
def rows (s : Summary) : List (String × BlueprintSummary) :=
  s.blueprints.entries.mergeSort fun a b => decide (a.1 ≤ b.1)

/-- Whether no pass failed. -/
def isClean (s : Summary) : Bool := s.blueprints.entries.all fun e => e.2.failures == 0

@[simp] theorem of_finished (s : Summary) (key other : String) (r : Report) :
    (s.finished key r).of other = if other = key then (s.of key).finished r else s.of other := by
  by_cases h : other = key <;> simp [finished, of, h]

end Summary
end BlueprintControl
