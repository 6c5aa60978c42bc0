import BlueprintControl.Yaml.Node

/-!
# Documents with linked aliases

Anchors are numbered by the number of different names before them, so a name that is used again
may take the number of a later one. Of several nodes with one number the last counts, for all
aliases of the document.

## Main definitions

* `Tree`: a document whose aliases point to nodes.
* `Tree.read?`: the document of a text.
-/
namespace BlueprintControl.Yaml

/-- The numbers of the names met so far. -/
abbrev Names := List (List Char × Nat)

namespace Names

/-- Gives a name its number. -/
def define (names : Names) (name : List Char) : Names :=
  (name, names.length) :: names.filter fun e => e.1 != name

/-- The number for the anchor of a node, and the names after it. -/
def mark (names : Names) : Option (List Char) → Option Nat × Names
  | none => (none, names)
  | some name => (some names.length, names.define name)

end Names

mutual

/-- Replaces names by numbers; an alias must come after its anchor. -/
def Node.link? : Written → Names → Option (Node Nat × Names)
  | .alias name, names => (names.lookup name).map fun n => (.alias n, names)
  | .scalar anchor s, names =>
    let (n, names) := names.mark anchor
    some (.scalar n s, names)
  | .sequence anchor tag items, names => do
    let (n, names) := names.mark anchor
    let (items, names) ← linkItems? items names
    return (.sequence n tag items, names)
  | .mapping anchor tag entries, names => do
    let (n, names) := names.mark anchor
    let (entries, names) ← linkEntries? entries names
    return (.mapping n tag entries, names)

/-- Links the items of a sequence. -/
def linkItems? : List Written → Names → Option (List (Node Nat) × Names)
  | [], names => some ([], names)
  | n :: rest, names => do
    let (n, names) ← n.link? names
    let (rest, names) ← linkItems? rest names
    return (n :: rest, names)

/-- Links the entries of a mapping. -/
def linkEntries? :
    List (Written × Written) → Names → Option (List (Node Nat × Node Nat) × Names)
  | [], names => some ([], names)
  | (k, v) :: rest, names => do
    let (k, names) ← k.link? names
    let (v, names) ← v.link? names
    let (rest, names) ← linkEntries? rest names
    return ((k, v) :: rest, names)

end

/-- A node under its number, if it has one. -/
def marked (anchor : Option Nat) (n : Node Nat) : List (Nat × Node Nat) :=
  match anchor with
  | some i => [(i, n)]
  | none => []

mutual

/-- The numbered nodes of a tree, in document order. -/
def Node.anchors : Node Nat → List (Nat × Node Nat)
  | .alias _ => []
  | .scalar a s => marked a (.scalar a s)
  | .sequence a t items => marked a (.sequence a t items) ++ itemAnchors items
  | .mapping a t entries => marked a (.mapping a t entries) ++ entryAnchors entries

/-- The numbered nodes of a sequence. -/
def itemAnchors : List (Node Nat) → List (Nat × Node Nat)
  | [] => []
  | n :: rest => n.anchors ++ itemAnchors rest

/-- The numbered nodes of a mapping. -/
def entryAnchors : List (Node Nat × Node Nat) → List (Nat × Node Nat)
  | [] => []
  | (k, v) :: rest => k.anchors ++ (v.anchors ++ entryAnchors rest)

end

mutual

/-- The number of steps in which a tree is gone through: two for a collection, one for
anything else. -/
def Node.size : Node Nat → Nat
  | .alias _ => 1
  | .scalar _ _ => 1
  | .sequence _ _ items => 2 + itemsSize items
  | .mapping _ _ entries => 2 + entriesSize entries

/-- The size of the items of a sequence. -/
def itemsSize : List (Node Nat) → Nat
  | [] => 0
  | n :: rest => n.size + itemsSize rest

/-- The size of the entries of a mapping. -/
def entriesSize : List (Node Nat × Node Nat) → Nat
  | [] => 0
  | (k, v) :: rest => k.size + (v.size + entriesSize rest)

end

/-- A part of a document: a node, unless the document is empty, and the numbered nodes, the last
one first. -/
structure Tree where
  anchors : List (Nat × Node Nat)
  node : Option (Node Nat)

namespace Tree

/-- The same document at another node. -/
def atNode (t : Tree) (n : Node Nat) : Tree := { t with node := some n }

/-- The node that is meant: what an alias stands for, or the node itself. -/
def target (t : Tree) : Option (Node Nat) :=
  match t.node with
  | some (.alias i) => t.anchors.lookup i
  | n => n

/-- The document of a text, unless the text is malformed. -/
def read? (text : String) : Option Tree := do
  match ← document? text.toList with
  | none => return ⟨[], none⟩
  | some n =>
    let (n, _) ← n.link? []
    return ⟨n.anchors.reverse, some n⟩

end Tree
end BlueprintControl.Yaml
