import BlueprintControl.Config.Settings
import BlueprintControl.Reconcile.Report
import BlueprintControl.Reconcile.Stored

/-!
# Evaluating documents

A document is checked against the action policy, or it is brought into the store and a pass is run
for it. Nothing is applied: the document is rehearsed, and the executor refuses to apply.

## Main definitions

* `Settings.accepts`: checks the actions of a document.
* `Settings.reconciler`: runs passes on the store, for documents with their diffs.
* `Stored.adopt`: brings the store in line with a document.
* `Settings.evaluate`: one pass for a document.
-/
namespace BlueprintControl

/-- Brings the store in line with a document. -/
def Stored.adopt (d : BlueprintDocument) : Task Stored Blueprint :=
  operate fun around s => d.adopt around s

/-- The end of a pass, and what is stored afterwards if it can be loaded. -/
structure Evaluation where
  report : Report
  stored : Option Blueprint

namespace Settings

/-- Checks the actions of a document against the policy. -/
def accepts (s : Settings) (d : BlueprintDocument) : Except Failure Unit :=
  s.policy.validate d.diff d.config.allowNamespaceSwitch

/-- What passes for documents with those diffs work with. -/
def collaborators (diffs : Keyed StateDiff) : Collaborators Stored :=
  ⟨Stored.repository, .registered fun _ => diffs, .refusing, Stored.clock⟩

/-- Runs passes for documents with those diffs. -/
def reconciler (s : Settings) (diffs : Keyed StateDiff) : Reconciler Stored :=
  ⟨collaborators diffs, s.policy, .make s.requeue.policy⟩

/-- A pass for a blueprint, as a task that does not fail. -/
def pass (s : Settings) (diffs : Keyed StateDiff) (id : String) : Task Stored Report :=
  Task.always fun w => (s.reconciler diffs).reconcile id w

/-- One pass for a document, which is brought into the store before. -/
def evaluate (s : Settings) (d : BlueprintDocument) : Task Stored Evaluation := do
  let _ ← Stored.adopt d.rehearsed
  let report ← s.pass (Keyed.empty.put d.id d.diff) d.id
  let stored ← Task.attempt (Stored.repository.load d.id)
  return ⟨report, stored.toOption⟩

end Settings
end BlueprintControl
