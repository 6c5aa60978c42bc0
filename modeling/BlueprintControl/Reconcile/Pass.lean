import BlueprintControl.Domain.Lifecycle
import BlueprintControl.Policy.Actions
import BlueprintControl.Reconcile.Collaborators

/-!
# A pass

A pass loads the only blueprint, determines its state diff, checks the needed actions, applies
them, and stores every change of a condition right after it happens. The first failure ends the
pass. A pass that has applied something ends with a failure too: the diff has to be looked at
again before the blueprint can count as completed.

## Main definitions

* `Outcome`: the successful ends.
* `Underway`, `Step`: the blueprint during a pass, and the steps that work on it.
* `Step.proceed`: all steps after loading.
* `Collaborators.runPass`: the pass.
-/
namespace BlueprintControl

/-- How a pass ends that does not fail. -/
inductive Outcome where
  /-- The diff was evaluated and nothing was applied. -/
  | dryRun
  /-- Nothing is left to apply. -/
  | completed
  deriving DecidableEq, Repr

/-- A pass that is under way. -/
structure Underway (σ : Type) where
  blueprint : Blueprint
  world : σ

/-- A step of a pass. -/
abbrev Step (σ α : Type) := Task (Underway σ) α

namespace Step

variable {σ α : Type} (c : Collaborators σ)

/-- Asks a collaborator something about the blueprint. -/
def ask (question : Blueprint → Task σ α) : Step σ α :=
  ⟨fun u => let (r, s) := (question u.blueprint).run u.world; (r, { u with world := s })⟩

/-- Changes the blueprint. -/
def revise (f : Blueprint → Blueprint) : Step σ Unit :=
  Task.change fun u => { u with blueprint := f u.blueprint }

/-- Makes a transition at the time of the clock, and says whether a condition changed. -/
def transition (f : Blueprint → Stamp → Transition) : Step σ Bool :=
  Task.always fun u =>
    let (now, s) := c.clock u.world
    let t := f u.blueprint now
    (t.changed, ⟨t.blueprint, s⟩)

/-- Stores the blueprint. If this fails the blueprint stays as it is, with its events pending. -/
def save : Step σ Unit := do
  let stored ← ask c.repository.update
  revise fun _ => stored

/-- Evaluates both axes against the diff, or against the failure that prevented it. -/
def evaluateAxes (error : Option String) : Step σ Unit := do
  let _ ← transition c fun b now => b.evaluate .dogus error now
  let _ ← transition c fun b now => b.evaluate .components error now

/-- Determines the state diff. -/
def determine : Step σ Unit := do
  match ← (ask c.diffs.determine).attempt with
  | .ok d => revise fun b => { b with diff := d }
  | .error f =>
    evaluateAxes c (some f.message)
    save c
    Task.fail f

/-- Refuses actions that are not allowed. -/
def checkActions (policy : ActionPolicy) : Step σ Unit := do
  let b := (← Task.world).blueprint
  match policy.validate b.diff b.config.allowNamespaceSwitch with
  | .ok () => return ()
  | .error f =>
    revise fun b => b.rejectActions f.message
    save c
    Task.fail f

/-- Waits for a healthy ecosystem. Only bad health itself is put on record. -/
def checkHealth : Step σ Unit := do
  match ← (ask fun b => c.executor.checkHealth b.config).attempt with
  | .ok () => return ()
  | .error f =>
    if f.kind = .unhealthy then
      revise fun b => b.rejectUnhealthy f.message
      save c
    Task.fail f

/-- Applies an axis. The end is stored if it changed the condition or left something to tell. -/
def apply (axis : Axis) : Step σ Unit := do
  let result ← (ask fun b => match axis with
    | .components => c.executor.applyComponents b.diff.components
    | .dogus => c.executor.applyDogus b.diff.dogus).attempt
  let error := match result with
    | .ok () => none
    | .error f => some f.message
  let changed ← transition c fun b now => b.completeApply axis error now
  if changed || !(← Task.world).blueprint.pending.isEmpty then
    save c
  Task.ofExcept result

/-- Applies the config, if there is something to apply. -/
def applyConfig : Step σ Unit := do
  if !(← Task.world).blueprint.diff.configHasChanges then
    let _ ← transition c Blueprint.finishConfig
  else
    let _ ← transition c Blueprint.startConfig
    save c
    match ← (ask fun b => c.executor.applyConfig b.diff.config).attempt with
    | .ok () =>
      let _ ← transition c Blueprint.finishConfig
      save c
    | .error f =>
      let _ ← transition c fun b now => b.failConfig f.message now
      save c
      Task.fail f

/-- What is said after changes were applied. -/
def appliedChanges : Failure :=
  .diffNotEmpty "changes were applied, state diff must be determined again"

/-- Applies everything, and completes the blueprint if nothing had to be applied. -/
def applyAll : Step σ Outcome := do
  checkHealth c
  let hadChanges := (← Task.world).blueprint.diff.hasChanges
  apply c .components
  apply c .dogus
  applyConfig c
  if hadChanges then
    save c
    Task.fail appliedChanges
  else
    let _ ← transition c Blueprint.complete
    save c
    return .completed

/-- All steps after loading. -/
def proceed (policy : ActionPolicy) : Step σ Outcome := do
  determine c
  checkActions c policy
  evaluateAxes c none
  if (← Task.world).blueprint.config.dryRun then
    save c
    return .dryRun
  else
    applyAll c

/-- Starts steps with a blueprint. -/
def startingWith (step : Step σ α) (b : Blueprint) : Task σ α :=
  ⟨fun s => let (r, u) := step.run ⟨b, s⟩; (r, u.world)⟩

end Step

namespace Collaborators

variable {σ : Type} (c : Collaborators σ)

/-- Loads a blueprint, given that no more than one is stored. -/
def loadSingle (id : String) : Task σ Blueprint := do
  let ids ← c.repository.list
  if 1 < ids.length then Task.fail (.multipleBlueprints ids)
  else c.repository.load id

/-- Runs a pass for a blueprint. -/
def runPass (policy : ActionPolicy) (id : String) : Task σ Outcome := do
  let b ← c.loadSingle id
  (Step.proceed c policy).startingWith b

end Collaborators
end BlueprintControl
