import BlueprintControl.Reconcile.Collaborators
import BlueprintControl.Store.Writing

/-!
# Rehearsals

A repository in memory whose answers are arranged beforehand, to try out passes against failures
of their repository.

## Main definitions

* `Rehearsal`: the blueprints, what has been published, and the arranged answers.
* `Rehearsal.repository`: the repository.
-/
namespace BlueprintControl

/-- Blueprints in memory, with arranged answers. -/
structure Rehearsal where
  blueprints : Keyed Blueprint
  /-- Published events, oldest first. -/
  published : List RecordedEvent
  /-- The number of updates so far. -/
  updates : Nat
  /-- What the repository lists. -/
  listed : Except Failure (List String)
  /-- The failure of every loading. -/
  loadFault : Option Failure
  /-- The failure of the update with a number. -/
  updateFault : Nat → Option Failure
  /-- What the update with a number finds around it. -/
  around : Nat → Surroundings

namespace Rehearsal

/-- Loads a blueprint. -/
def load (r : Rehearsal) (id : String) : Except Failure Blueprint :=
  match r.loadFault, r.blueprints.find? id with
  | some f, _ => .error f
  | none, some b => .ok b
  | none, none => .error (.store (.notFound id))

/-- Stores a blueprint and publishes its events. A failed update changes nothing. -/
def update (r : Rehearsal) (b : Blueprint) : Except Failure Blueprint × Rehearsal :=
  let counted := { r with updates := r.updates + 1 }
  match r.updateFault r.updates with
  | some f => (.error f, counted)
  | none =>
    let w := r.around r.updates
    let events := b.pending.zipIdx.map fun p => RecordedEvent.ofEvent p.1 w.now (w.ids p.2)
    let after := { b.drained with version := some ⟨toString r.updates⟩ }
    (.ok after, { counted with
      blueprints := r.blueprints.put b.id after, published := r.published ++ events })

/-- The repository. -/
def repository : Repository Rehearsal where
  list := ⟨fun r => (r.listed, r)⟩
  load id := ⟨fun r => (r.load id, r)⟩
  update b := ⟨fun r => r.update b⟩

end Rehearsal
end BlueprintControl
