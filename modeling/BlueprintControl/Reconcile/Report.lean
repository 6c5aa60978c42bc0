import BlueprintControl.Policy.Requeue
import BlueprintControl.Reconcile.Pass

/-!
# Reports

How a pass ended, and what happens next.

## Main definitions

* `Report`: the end of a pass.
* `Reconciler`, `Reconciler.reconcile`: runs a pass and decides what happens next.
-/
namespace BlueprintControl

/-- The end of a pass. -/
structure Report where
  blueprint : String
  /-- How the pass ended, if it did not fail. -/
  outcome : Option Outcome
  /-- What is said about the failure that ended it. -/
  error : Option String
  decision : Decision
  deriving DecidableEq

/-- Runs passes and decides what happens after them. -/
structure Reconciler (σ : Type) where
  collaborators : Collaborators σ
  policy : ActionPolicy
  classifier : Classifier

/-- The report on the end of a pass. -/
def Report.ofResult (classifier : Classifier) (id : String) : Except Failure Outcome → Report
  | .ok outcome => ⟨id, some outcome, none, .rest⟩
  | .error f => ⟨id, none, some f.message, (classifier.decide f).1⟩

/-- Runs a pass for a blueprint. -/
def Reconciler.reconcile {σ : Type} (r : Reconciler σ) (id : String) (s : σ) : Report × σ :=
  let (result, s) := (r.collaborators.runPass r.policy id).run s
  (.ofResult r.classifier id result, s)

end BlueprintControl
