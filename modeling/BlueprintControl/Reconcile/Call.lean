import BlueprintControl.Reconcile.Collaborators

/-!
# Calls

What a pass asked its collaborators, in order, together with what they answered.

## Main definitions

* `Call`: a question with its answer.
* `Call.failure?`: the failure, if the answer is one.
* `Collaborators.traced`: the same collaborators in a world that keeps the calls.
-/
namespace BlueprintControl

/-- A question to a collaborator with its answer. -/
inductive Call where
  | list (answer : Except Failure (List String))
  | load (id : String) (answer : Except Failure Blueprint)
  | update (blueprint : Blueprint) (answer : Except Failure Blueprint)
  | determine (blueprint : Blueprint) (answer : Except Failure StateDiff)
  | checkHealth (config : BlueprintConfig) (answer : Except Failure Unit)
  | applyComponents (diffs : List (DiffEntry Snapshot Action)) (answer : Except Failure Unit)
  | applyDogus (diffs : List (DiffEntry Snapshot Action)) (answer : Except Failure Unit)
  | applyConfig (diffs : List (DiffEntry ConfigSnapshot ConfigAction))
      (answer : Except Failure Unit)

namespace Call

/-- The failure, if the answer is one. -/
def failure? : Call → Option Failure
  | .list r => failed r
  | .load _ r => failed r
  | .update _ r => failed r
  | .determine _ r => failed r
  | .checkHealth _ r => failed r
  | .applyComponents _ r => failed r
  | .applyDogus _ r => failed r
  | .applyConfig _ r => failed r
where
  /-- The failure of an answer. -/
  failed {α : Type} : Except Failure α → Option Failure
    | .ok _ => none
    | .error f => some f

/-- Whether the ecosystem is asked to change. -/
def isApply : Call → Bool
  | .applyComponents _ _ | .applyDogus _ _ | .applyConfig _ _ => true
  | _ => false

/-- The blueprint that is handed to the repository. -/
def updated? : Call → Option Blueprint
  | .update b _ => some b
  | _ => none

end Call

/-- A world together with the calls so far, oldest first. -/
structure Traced (σ : Type) where
  world : σ
  calls : List Call

variable {σ α : Type}

/-- Keeps a call with its answer. -/
def Task.traced (call : Except Failure α → Call) (t : Task σ α) : Task (Traced σ) α :=
  ⟨fun w => let (r, s) := t.run w.world; (r, ⟨s, w.calls ++ [call r]⟩)⟩

@[simp] theorem Task.run_traced (call : Except Failure α → Call) (t : Task σ α) (w : Traced σ) :
    (t.traced call).run w
      = ((t.run w.world).1, ⟨(t.run w.world).2, w.calls ++ [call (t.run w.world).1]⟩) := rfl

/-- The same collaborators, in a world that keeps the calls. -/
def Collaborators.traced (c : Collaborators σ) : Collaborators (Traced σ) where
  repository := {
    list := c.repository.list.traced .list
    load := fun id => (c.repository.load id).traced (.load id)
    update := fun b => (c.repository.update b).traced (.update b) }
  diffs := { determine := fun b => (c.diffs.determine b).traced (.determine b) }
  executor := {
    checkHealth := fun g => (c.executor.checkHealth g).traced (.checkHealth g)
    applyComponents := fun ds => (c.executor.applyComponents ds).traced (.applyComponents ds)
    applyDogus := fun ds => (c.executor.applyDogus ds).traced (.applyDogus ds)
    applyConfig := fun ds => (c.executor.applyConfig ds).traced (.applyConfig ds) }
  clock w := ((c.clock w.world).1, { w with world := (c.clock w.world).2 })

end BlueprintControl
