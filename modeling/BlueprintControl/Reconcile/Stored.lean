import BlueprintControl.Reconcile.Collaborators
import BlueprintControl.Store.Repository

/-!
# Passes on a store

The store as the repository of a pass, with a supply of times and identifiers.

## Main definitions

* `Stored`: the store, and what its operations find around them.
* `Stored.repository`, `Stored.clock`: the repository and the clock of a pass.
-/
namespace BlueprintControl

/-- A store with the surroundings of all its operations. -/
structure Stored where
  store : Store
  /-- What the operation with a number finds around it. -/
  around : Nat → Surroundings
  /-- The number of the next operation. -/
  next : Nat

namespace Stored

/-- An operation on the store, which sees the next surroundings. -/
def operate {α : Type} (op : Surroundings → Store → Except Failure α × Store) : Task Stored α :=
  ⟨fun s =>
    let (r, store) := op (s.around s.next) s.store
    (r, { s with store := store, next := s.next + 1 })⟩

/-- An operation that only looks at the store. -/
def inspect {α : Type} (look : Store → Except Failure α) : Task Stored α :=
  ⟨fun s => (look s.store, s)⟩

/-- The store as a repository. -/
def repository : Repository Stored where
  list := inspect Store.ids
  load id := inspect fun s => s.load id
  update b := operate fun around s => s.update around b

/-- Reads the clock. -/
def clock (s : Stored) : Stamp × Stored :=
  ((s.around s.next).now, { s with next := s.next + 1 })

end Stored
end BlueprintControl
