import BlueprintControl.Config.Source
import BlueprintControl.Files.Tree
import BlueprintControl.Reconcile.Stored
import BlueprintControl.Time.Moment

/-!
# Hosts

The program runs on a host: there it finds files and variables, and there the store lies.

## Main definitions

* `Host`: what the program finds.
* `Sandbox`: a host in memory, with a tree of files.
-/
namespace BlueprintControl

/-- What the program finds where it runs. -/
structure Host (m : Type → Type) where
  /-- What is found at a path. -/
  look : String → m Look
  /-- The variables that are set, among those with the names. -/
  lookUp : List String → m Environment
  /-- The folder in which the program runs. -/
  folder : m String
  /-- Whether the output goes to a terminal. -/
  terminal : m Bool
  /-- Works on the store in a folder. -/
  onStore : {α : Type} → String → Task Stored α → m (Except Failure α)
  /-- Waits for a moment, and tells the moment that it is then. -/
  wait : Moment → m Moment

/-- A tree of files with a folder to run in. -/
structure Sandbox where
  tree : Tree
  /-- The names that lead to the folder, innermost first. -/
  folder : List String
  environment : Environment
  /-- What the operation on the store with a number finds around it. -/
  around : Nat → Surroundings
  /-- The number of the next operation. -/
  next : Nat

/-- The folder at a path as the directory of a store. -/
def Tree.place (t : Tree) (here : List String) (path : String) : Place :=
  match t.locate here path with
  | .error .missing => .absent
  | .error why => .blocked why
  | .ok place => match t.find? place with
    | none => .absent
    | some (.file _) => .occupied
    | some .folder => .directory ⟨t.children place⟩

/-- Makes the folder at a path hold what the directory of a store holds. -/
def Tree.settle (t : Tree) (here : List String) (path : String) (p : Place) : Tree :=
  match p with
  | .directory items =>
    let t := t.makeFolders here path
    match t.locate here path with
    | .error _ => t
    | .ok place =>
      let gone := (t.children place).filter fun e => !items.contains e.1
      let t := gone.foldl (fun t e => t.erase (e.1 :: place)) t
      items.entries.foldl (fun t e => t.put (e.1 :: place) e.2) t
  | _ => t

namespace Sandbox

/-- The path of the folder. -/
def path (s : Sandbox) : String := "/" ++ "/".intercalate s.folder.reverse

/-- The sandbox as a host. Time passes as it is waited for. -/
def host : Host (StateM Sandbox) where
  look path := do return (← get).tree.look (← get).folder path
  lookUp names := do return (← get).environment.filter fun v => names.contains v.1
  folder := do return (← get).path
  terminal := return false
  onStore path task := fun s =>
    let (r, t) := task.run ⟨⟨path, s.tree.place s.folder path⟩, s.around, s.next⟩
    (r, { s with tree := s.tree.settle s.folder path t.store.place, next := t.next })
  wait moment := return moment

end Sandbox
end BlueprintControl
