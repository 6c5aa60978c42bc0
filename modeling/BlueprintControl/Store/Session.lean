import BlueprintControl.Domain.Operation
import BlueprintControl.Store.Repository

/-!
# Sessions on a store

Several blueprints are held in memory, each in a slot of its own, and are created, loaded, changed
and written in any order. Meanwhile somebody else may write to the directory or remove documents.

## Main definitions

* `Deed`: what is done.
* `Session`: the store and the slots.
* `Session.step`, `Session.run`: one deed, and a list of them.
-/
namespace BlueprintControl

/-- Something that is done in a session. -/
inductive Deed where
  /-- Puts a blueprint into a slot. -/
  | hold (slot : String) (b : Blueprint)
  | create (slot : String)
  | load (slot id : String)
  | update (slot : String)
  | perform (slot : String) (o : Operation)
  /-- Brings the store in line with a document, and holds the blueprint. -/
  | adopt (slot : String) (d : BlueprintDocument)
  /-- Somebody puts something into the directory. -/
  | deposit (name : String) (item : Item)
  /-- Somebody removes a file. -/
  | remove (name : String)

/-- A store with blueprints in slots. -/
structure Session where
  store : Store
  slots : Keyed Blueprint
  /-- What the deed with a number finds around it. -/
  around : Nat → Surroundings
  /-- The number of the next deed. -/
  next : Nat

/-- What comes of a deed. -/
inductive DeedResult where
  | done
  | failed (f : Failure)
  /-- The slot is empty, or the directory does not take the item. -/
  | impossible

namespace Session

/-- Holds a blueprint in a slot. -/
def hold (s : Session) (slot : String) (b : Blueprint) : Session :=
  { s with slots := s.slots.put slot b }

/-- Holds the blueprint that an operation on the store gave, in the slot. -/
def settle (s : Session) (slot : String) : Except Failure Blueprint × Store → DeedResult × Session
  | (.ok b, store) => (.done, { s with store := store }.hold slot b)
  | (.error f, store) => (.failed f, { s with store := store })

/-- Changes the directory from outside. -/
def disturb (s : Session) : Option Place → DeedResult × Session
  | some p => (.done, { s with store := { s.store with place := p } })
  | none => (.impossible, s)

/-- What a deed does, apart from its number. -/
def act (s : Session) (around : Surroundings) : Deed → DeedResult × Session
  | .hold slot b => (.done, s.hold slot b)
  | .create slot => match s.slots.find? slot with
    | some b => s.settle slot (s.store.create around b)
    | none => (.impossible, s)
  | .load slot id => s.settle slot (s.store.load id, s.store)
  | .update slot => match s.slots.find? slot with
    | some b => s.settle slot (s.store.update around b)
    | none => (.impossible, s)
  | .perform slot o => match s.slots.find? slot with
    | some b => (.done, s.hold slot (b.perform around.now o).blueprint)
    | none => (.impossible, s)
  | .adopt slot d => s.settle slot (d.adopt around s.store)
  | .deposit name item => s.disturb (s.store.place.deposit? name item)
  | .remove name => s.disturb (s.store.place.remove? name)

/-- A deed. -/
def step (s : Session) (d : Deed) : DeedResult × Session :=
  let (r, s') := s.act (s.around s.next) d
  (r, { s' with next := s.next + 1 })

/-- Deeds in order, with their results. -/
def run (s : Session) : List Deed → List DeedResult × Session
  | [] => ([], s)
  | d :: rest =>
    let (r, s) := s.step d
    let (rs, s) := s.run rest
    (r :: rs, s)

end Session
end BlueprintControl
