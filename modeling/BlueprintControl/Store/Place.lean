import BlueprintControl.Files.Look
import BlueprintControl.Keyed

/-!
# The directory of the stored blueprints

The directory may be there, or it may still have to be created, and something else may be in its
way. Inside are documents, temporary files and whatever else somebody has put there, which is files
and folders only: there are no links. The length of a name is limited, that of the whole path of an
item is not.

## Main definitions

* `Place`: the directory.
* `Place.look`: what is found under a name.
* `Place.put`: writes a file under a name.
* `Place.deposit?`, `Place.remove?`: what somebody else does to the directory.
* `Place.ids`: the names that end in `.json`, without this ending.
-/
namespace BlueprintControl

/-- The directory of the stored blueprints. -/
inductive Place where
  /-- It is not there and can be created. -/
  | absent
  /-- It is not there and cannot be created. -/
  | blocked (why : OsError)
  /-- A file stands in its place. -/
  | occupied
  /-- It is there, with its items by name. -/
  | directory (items : Keyed Item)

namespace Place

/-- Whether something is at the path of the directory. -/
def exists? : Place → Bool
  | .absent | .blocked _ => false
  | .occupied | .directory _ => true

/-- The items of the directory. -/
def items : Place → Keyed Item
  | .directory items => items
  | _ => .empty

/-- What is found under a name. -/
def look (p : Place) (name : String) : Look :=
  match p with
  | .absent => .absent .missing
  | .blocked why => .absent why
  | .occupied => .absent .notFolder
  | .directory items =>
    if nameLimit < name.utf8ByteSize then .absent .nameTooLong
    else .ofItem? (items.find? name)

/-- Writes a file, given that the directory is there. -/
def put (p : Place) (name : String) (content : ByteArray) : Place :=
  match p with
  | .directory items => .directory (items.put name (.file content))
  | p => p

/-- Renames a file with that content over another. -/
def rename (p : Place) (source target : String) (content : ByteArray) : Place :=
  match p with
  | .directory items => .directory ((items.put target (.file content)).erase source)
  | p => p

/-- The directory after somebody put something into it. Nothing can be put where no directory can
be, and a file and a folder do not replace each other. -/
def deposit? (p : Place) (name : String) (item : Item) : Option Place :=
  match p with
  | .blocked _ | .occupied => none
  | p => match p.items.find? name, item with
    | some .folder, .file _ => none
    | some (.file _), .folder => none
    | _, item =>
      if nameLimit < name.utf8ByteSize then none else some (.directory (p.items.put name item))

/-- The directory after somebody removed a file. -/
def remove? (p : Place) (name : String) : Option Place :=
  match p.look name with
  | .file _ => some (.directory (p.items.erase name))
  | _ => none

/-- The name in front of `.json`, if there is one. -/
def stem? (name : String) : Option String :=
  let cs := name.toList
  let n := cs.length - 5
  if cs.drop n = ".json".toList ∧ 0 < n then some (String.ofList (cs.take n)) else none

/-- The stored identifiers in the order of their octets. -/
def ids (p : Place) : List String :=
  (p.items.keys.filterMap stem?).mergeSort fun a b => decide (a ≤ b)

end Place
end BlueprintControl
