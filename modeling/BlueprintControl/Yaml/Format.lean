import BlueprintControl.Json.Format
import BlueprintControl.Yaml.Meaning
import BlueprintControl.Yaml.Tree

/-!
# YAML as a document format

Records are mappings. A variant is a scalar with its name, or a node with the name as its tag.
What is left out counts as an empty record or sequence, and as nothing where a value is optional.

A text from which a domain value cannot be read may still be a document: then the fault and its
place are reported. It is no document if a scalar does not fit its tag or 64 bits, if it is nested
too deeply, or if its aliases repeat too much of it.

## Main definitions

* `Yaml.format`: the format.
* `Yaml.isReadable`: whether a document can be read without knowing what it should hold.
* `Yaml.decodeText`: reads a domain value from a text.
-/
namespace BlueprintControl.Yaml

/-! ## Reading parts -/

/-- How a scalar is called in a fault. -/
def Meaning.describe (cs : List Char) : Meaning → String
  | .null => "unit value"
  | .bool b => "boolean `" ++ toString b ++ "`"
  | .integer n => "integer `" ++ toString n ++ "`"
  | .float bits => "floating point `" ++ Double.text bits ++ "`"
  | .string => "string " ++ Text.quote (String.ofList cs)

/-- Something that is not what is expected. -/
def mistaken (expected : String) : Option (Node Nat) → Fault
  | some (.scalar _ s) => match s.meaning? with
    | .ok m => .invalidType (m.describe s.text) expected
    | .error f => f
  | some (.sequence _ _ _) => .invalidType "sequence" expected
  | some (.mapping _ _ _) => .invalidType "map" expected
  | _ => .here "end of stream"

/-- A scalar whose spelling decides: a plain one, or a literal one with the fitting tag. -/
def Scalar.isSpelled (s : Scalar) (tag : String) : Bool :=
  s.style == .plain || (s.style == .literal && s.tag == some (standardTag tag))

/-- A plain scalar with nothing written. -/
def isBlankNode : Option (Node Nat) → Bool
  | some (.scalar _ s) => s.style == .plain && s.text.isEmpty
  | some _ => false
  | none => true

/-- A text, however it is spelled. -/
def text (expected : String) (t : Tree) : Except Fault String :=
  match t.target with
  | some (.scalar _ s) => .ok (String.ofList s.text)
  | n => .error (mistaken expected n)

/-- A boolean. -/
def flag (t : Tree) : Except Fault Bool :=
  match t.target with
  | some (.scalar a s) =>
    match if s.isSpelled "bool" then boolean? s.text else none with
    | some b => .ok b
    | none => .error (mistaken "a boolean" (some (.scalar a s)))
  | n => .error (mistaken "a boolean" n)

/-- A natural number of 64 bits. -/
def count (t : Tree) : Except Fault UInt64 :=
  match t.target with
  | some (.scalar a s) =>
    match if s.isSpelled "int" then natural64? s.text else none with
    | some n => .ok n.toUInt64
    | none => .error (mistaken "u64" (some (.scalar a s)))
  | n => .error (mistaken "u64" n)

/-- A node, or nothing for a plain null. -/
def optional (t : Tree) : Except Fault (Option Tree) :=
  match t.target with
  | some (.scalar _ s) =>
    if s.style ≠ .plain then .ok (some t)
    else match s.tag with
      | none => .ok (if s.text.isEmpty || isNullWord s.text then none else some t)
      | some tag =>
        if tag ≠ standardTag "null" then .ok (some t)
        else if isNullWord s.text then .ok none
        else .error (unfitting s.text "null").lift
  | some _ => .ok (some t)
  | none => .ok none

/-- The items of a sequence. -/
def items (t : Tree) : Except Fault (List Tree) :=
  match t.target with
  | some (.sequence _ _ ns) => .ok (ns.map t.atNode)
  | n => if isBlankNode n then .ok [] else .error (mistaken "a sequence" n)

/-- The variant that a tag names. -/
def taggedVariant? (tag : Option (List Char)) : Option String :=
  match tag with
  | some ('!' :: rest) => some (if rest.isEmpty then "!" else String.ofList rest)
  | _ => none

/-- The tag of a node. -/
def tagOf : Option (Node Nat) → Option (List Char)
  | some (.scalar _ s) => s.tag
  | some (.sequence _ tag _) | some (.mapping _ tag _) => tag
  | _ => none

/-- A variant has no parts: next to its tag stands nothing but a null. -/
def checkBare : Option (Node Nat) → Except Fault Unit
  | some (.scalar _ s) =>
    if s.style = .plain ∧ (s.text.isEmpty ∨ isNullWord s.text) then .ok ()
    else .error (unfitting s.text "null")
  | n => .error (mistaken "unit" n)

/-- Accepts a name that is one of the variants. -/
def known (names : List String) (name : String) : Except Fault String :=
  if names.contains name then .ok name else .error (.unknownVariant name names)

/-- One of the variants. -/
def variant (names : List String) (t : Tree) : Except Fault String := do
  let n := t.target
  match taggedVariant? (tagOf n) with
  | some name =>
    let name ← (known names name).mapError Fault.lift
    checkBare n
    return name
  | none => match n with
    | some (.scalar _ s) => known names (String.ofList s.text)
    | n => throw (mistaken "a YAML tag starting with '!'" n)

/-- The name of a field. -/
def fieldName (t : Tree) (key : Node Nat) : Except Fault String :=
  text "field identifier" (t.atNode key)

/-- The step to the value of a key; only a key that is written out has a name. -/
def segmentOf : Option (Node Nat × Node Nat) → Segment
  | some (.scalar _ s, _) => .field (String.ofList s.text)
  | _ => .unnamed

/-- The entries of a record. -/
def fields (name : String) (t : Tree) : Except Fault (Fields Tree) :=
  let make (entries : List (Node Nat × Node Nat)) : Fields Tree := {
    entries := entries.map fun e => (fieldName t e.1, t.atNode e.2)
    segment := fun i => segmentOf entries[i]?
    missing := Fault.missingField
    surplus := none }
  match t.target with
  | some (.mapping _ _ entries) => .ok (make entries)
  | n => if isBlankNode n then .ok (make []) else .error (mistaken ("struct " ++ name) n)

/-- YAML as a document format. -/
def format : Format Tree where
  text := text
  flag := flag
  count := count
  optional := optional
  items := items
  variant := variant
  fields := fun name _ t => fields name t

/-! ## Reading without expectation -/

/-- Whether a scalar fits its tag, and an integer 64 bits. -/
def Scalar.isReadable (s : Scalar) : Bool :=
  match s.meaning? with
  | .ok (.integer n) => fits64 n
  | .ok _ => true
  | .error _ => false

/-- Goes through a node with aliases expanded; a depth is left for collections, and `aliases`
counts what is still allowed. The result is the number that is left. -/
def readNode? (anchors : List (Nat × Node Nat)) :
    Nat → Nat → Node Nat → Option Nat
  | depth, aliases, .alias i =>
    match aliases, anchors.lookup i with
    | left + 1, some n => readTarget? depth left n
    | _, _ => none
  | depth, aliases, n => readTarget? depth aliases n
where
  /-- The same for a node that is no alias. -/
  readTarget? : Nat → Nat → Node Nat → Option Nat
    | _, _, .alias _ => none
    | _, aliases, .scalar _ s => if s.isReadable then some aliases else none
    | 0, _, _ => none
    | depth + 1, aliases, .sequence _ _ items =>
      items.foldlM (fun left n => readNode? anchors depth left n) aliases
    | depth + 1, aliases, .mapping _ _ entries =>
      entries.foldlM (fun left e => do
        readNode? anchors depth (← readNode? anchors depth left e.1) e.2) aliases

/-- Collections may be nested this deep. -/
def depthLimit : Nat := 128

/-- For each step through a document this many aliases may be expanded. -/
def aliasFactor : Nat := 100

/-- Whether a document can be read without knowing what it should hold. -/
def isReadable (t : Tree) : Bool :=
  match t.node with
  | none => true
  | some n => (readNode? t.anchors depthLimit (aliasFactor * n.size) n).isSome

/-! ## Reading texts -/

/-- The path to a faulty part. -/
def pathText : List Segment → String → String
  | [], parent => parent
  | .field name :: rest, parent =>
    pathText rest (if parent.isEmpty then name else parent ++ "." ++ name)
  | .unnamed :: rest, parent => pathText rest (if parent.isEmpty then "?" else parent ++ ".?")
  | .index i :: rest, parent =>
    pathText rest ((if parent.isEmpty then "." else parent) ++ "[" ++ toString i ++ "]")

/-- A fault with its place. -/
def faultText (f : Fault) : String :=
  if f.path.isEmpty then f.message else pathText f.path "" ++ ": " ++ f.message

/-- Reads a domain value from a text. -/
def decodeText {α : Type} (read : Format Tree → Tree → Except Fault α) (text : String) :
    Except TextFault α :=
  match Tree.read? text with
  | none => .error .malformed
  | some t => match read format t with
    | .ok a => .ok a
    | .error f => .error (if isReadable t then .unfit (faultText f) else .malformed)

end BlueprintControl.Yaml
