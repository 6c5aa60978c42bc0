import BlueprintControl.Domain.Blueprint
import BlueprintControl.Keyed
import BlueprintControl.Reconcile.Task

/-!
# What a pass works with

A pass does not store blueprints, compute diffs or apply them. It asks a repository, a source of
diffs and an executor to do so, and it reads a clock.

## Main definitions

* `Repository`, `DiffSource`, `Executor`, `Collaborators`: whom a pass asks.
* `DiffSource.registered`: serves diffs that were registered before.
* `Executor.refusing`: finds everything healthy and applies nothing.
-/
namespace BlueprintControl

/-- Where blueprints are stored. -/
structure Repository (σ : Type) where
  list : Task σ (List String)
  load : String → Task σ Blueprint
  /-- Stores the status of a blueprint, and gives the blueprint as it is afterwards. -/
  update : Blueprint → Task σ Blueprint

/-- Who computes state diffs. -/
structure DiffSource (σ : Type) where
  determine : Blueprint → Task σ StateDiff

/-- Who applies state diffs. -/
structure Executor (σ : Type) where
  checkHealth : BlueprintConfig → Task σ Unit
  applyComponents : List (DiffEntry Snapshot Action) → Task σ Unit
  applyDogus : List (DiffEntry Snapshot Action) → Task σ Unit
  applyConfig : List (DiffEntry ConfigSnapshot ConfigAction) → Task σ Unit

/-- Whom a pass asks. -/
structure Collaborators (σ : Type) where
  repository : Repository σ
  diffs : DiffSource σ
  executor : Executor σ
  clock : σ → Stamp × σ

variable {σ τ : Type}

/-- A repository in a part of the world. -/
def Repository.zoom (view : τ → σ) (put : σ → τ → τ) (r : Repository σ) : Repository τ where
  list := r.list.zoom view put
  load id := (r.load id).zoom view put
  update b := (r.update b).zoom view put

/-- What is missing if no diff was registered. -/
def DiffSource.notRegistered (id : String) : Failure :=
  .notFound id "no state diff registered for blueprint" true

/-- Serves the diff that was registered for the identifier of a blueprint. -/
def DiffSource.registered (diffs : σ → Keyed StateDiff) : DiffSource σ where
  determine b := do
    match (diffs (← Task.world)).find? b.id with
    | some d => return d
    | none => Task.fail (notRegistered b.id)

/-- The refusal to apply a number of diffs. -/
def Executor.refusal (what : String) (n : Nat) : Failure :=
  .internal ("dry-run executor cannot apply " ++ toString n ++ " " ++ what ++ " diffs")

/-- Finds everything healthy and refuses to apply anything. -/
def Executor.refusing : Executor σ where
  checkHealth _ := return ()
  applyComponents ds := Task.fail (refusal "component" ds.length)
  applyDogus ds := Task.fail (refusal "dogu" ds.length)
  applyConfig ds := Task.fail (refusal "config" ds.length)

end BlueprintControl
