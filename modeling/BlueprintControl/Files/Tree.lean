import BlueprintControl.Files.Look

/-!
# Trees of files

A tree of files and folders below a root, in which paths are walked name by name. There are no links:
an item is a file or a folder. The length of a name is limited, that of a whole path is not.

## Main definitions

* `Tree`: the tree.
* `Tree.locate`: where a path leads.
* `Tree.look`: what is found there.
* `Tree.makeFolders`, `Tree.deposit`: create folders along a path, and put something at its end.
-/
namespace BlueprintControl

/-- A tree of files and folders. A place in it is given by the names that lead there, innermost
first. -/
structure Tree where
  items : List (List String × Item)

namespace Tree

/-- Nothing but the root. -/
def empty : Tree := ⟨[]⟩

/-- What is at a place. -/
def find? (t : Tree) : List String → Option Item
  | [] => some .folder
  | place => t.items.lookup place

/-- Where a name leads from a place. -/
def enter (t : Tree) (here : List String) (name : String) : Except OsError (List String) :=
  match t.find? here with
  | none => .error .missing
  | some (.file _) => .error .notFolder
  | some .folder =>
    if name = "" ∨ name = "." then .ok here
    else if name = ".." then .ok here.tail
    else if nameLimit < name.utf8ByteSize then .error .nameTooLong
    else .ok (name :: here)

/-- The names of a path. -/
def names (path : String) : List String := path.splitOn "/"

/-- Where a path starts, seen from a place. -/
def base (here : List String) (path : String) : List String :=
  if path.startsWith "/" then [] else here

/-- Where a path leads from a place. -/
def locate (t : Tree) (here : List String) (path : String) : Except OsError (List String) :=
  if path.isEmpty then .error .missing else (names path).foldlM t.enter (base here path)

/-- What is found at a path. -/
def look (t : Tree) (here : List String) (path : String) : Look :=
  match t.locate here path with
  | .error why => .absent why
  | .ok place => .ofItem? (t.find? place)

/-- Puts something at a place. -/
def put (t : Tree) (place : List String) (item : Item) : Tree :=
  ⟨t.items.filter (fun e => e.1 != place) ++ [(place, item)]⟩

/-- Removes what is at a place. -/
def erase (t : Tree) (place : List String) : Tree := ⟨t.items.filter fun e => e.1 != place⟩

/-- Creates a folder where there is nothing. -/
def makeFolder (t : Tree) (place : List String) : Tree :=
  match t.find? place with
  | some _ => t
  | none => t.put place .folder

/-- Walks along names and creates the folders that are not there. -/
def makeAlong (t : Tree) (here : List String) : List String → Tree
  | [] => t
  | name :: rest => match t.enter here name with
    | .error _ => t
    | .ok place => (t.makeFolder place).makeAlong place rest

/-- Creates all folders along a path. -/
def makeFolders (t : Tree) (here : List String) (path : String) : Tree :=
  t.makeAlong (base here path) (names path)

/-- Puts something at a path, and folders along it. -/
def deposit (t : Tree) (here : List String) (path : String) (item : Item) : Tree :=
  (t.makeAlong (base here path) (names path).dropLast).put
    ((names path).reverse ++ base here path) item

/-- What is directly below a place, by name. -/
def children (t : Tree) (place : List String) : List (String × Item) :=
  t.items.filterMap fun e => match e.1 with
    | name :: above => if above = place then some (name, e.2) else none
    | [] => none

end Tree
end BlueprintControl
