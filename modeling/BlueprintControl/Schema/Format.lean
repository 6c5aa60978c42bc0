import BlueprintControl.Schema.Fault

/-!
# Formats and record readers

A `Format` is a way of writing documents: it says how texts, flags, numbers, sequences, variants
and records are found in a node of a document. Readers of domain types are written once, for
every format.

A record reader is put together from readers of single fields. All fields of a record are read,
and the fault reported is the one whose entry comes first in the document; fields that are missing
come after all entries, in the order of declaration.

## Main definitions

* `Format`: the primitive readers of a format.
* `Fields`: the entries of a record.
* `RecordReader`: a reader of some fields, with `required`, `optional` and `both`.
* `Format.record`: the reader of a whole record.
-/
namespace BlueprintControl

/-- The entries of a record in document order. -/
structure Fields (ν : Type) where
  /-- Names and values; a name that is no text carries its fault. -/
  entries : List (Except Fault String × ν)
  /-- The step from the record to the entry at a position. -/
  segment : Nat → Segment
  /-- What to say when a required field is absent. -/
  missing : String → Fault
  /-- A fault of the record as a whole, reported when nothing else is wrong. -/
  surplus : Option Fault

/-- The primitive readers of a format. -/
structure Format (ν : Type) where
  /-- A text; the string names what is expected. -/
  text : String → ν → Except Fault String
  flag : ν → Except Fault Bool
  count : ν → Except Fault UInt64
  /-- The node itself, or nothing for a null. -/
  optional : ν → Except Fault (Option ν)
  items : ν → Except Fault (List ν)
  /-- One of the given names. -/
  variant : List String → ν → Except Fault String
  /-- The entries of the named record with the given fields. -/
  fields : String → List String → ν → Except Fault (Fields ν)

namespace Fields

variable {ν : Type}

/-- Position and value of the first entry with that name. -/
def find? (fs : Fields ν) (name : String) : Option (Nat × ν) :=
  (fs.entries.zipIdx.find? fun e => match e.1.1 with
    | .ok n => n == name
    | .error _ => false).map fun e => (e.2, e.1.2)

/-- The first entry whose name is no text, or is known and has been seen before. -/
def misnamed? (known : List String) (seen : List String) (position : Nat) :
    List (Except Fault String × ν) → Option (Nat × Fault)
  | [] => none
  | (.error f, _) :: _ => some (position, f)
  | (.ok n, _) :: rest =>
    if known.contains n && seen.contains n then some (position, .duplicateField n)
    else misnamed? known (n :: seen) (position + 1) rest

/-- Whether all names are fine. -/
def names (fs : Fields ν) (known : List String) : Found Unit :=
  match misnamed? known [] 0 fs.entries with
  | some (i, f) => .fault i f
  | none => .value ()

end Fields

/-- A reader of some fields of a record. -/
structure RecordReader (ν α : Type) where
  /-- The fields in order of declaration. -/
  known : List String
  read : Fields ν → Found α

namespace RecordReader

variable {ν α β : Type}

/-- Reads the value of a field where it stands. -/
def readAt (read : ν → Except Fault α) (fs : Fields ν) (position : Nat) (v : ν) : Found α :=
  match read v with
  | .ok a => .value a
  | .error f => .fault position (f.within (fs.segment position))

/-- A field that has to be there. -/
def required (name : String) (read : ν → Except Fault α) : RecordReader ν α where
  known := [name]
  read fs := match fs.find? name with
    | some (i, v) => readAt read fs i v
    | none => .fault fs.entries.length (fs.missing name)

/-- A field with a value of its own when it is absent. -/
def optional (name : String) (read : ν → Except Fault α) (fallback : α) : RecordReader ν α where
  known := [name]
  read fs := match fs.find? name with
    | some (i, v) => readAt read fs i v
    | none => .value fallback

/-- Reads the fields of both readers. -/
def both (a : RecordReader ν α) (b : RecordReader ν β) : RecordReader ν (α × β) where
  known := a.known ++ b.known
  read fs := (a.read fs).both (b.read fs)

/-- Puts together a value from the fields. -/
def map (f : α → β) (a : RecordReader ν α) : RecordReader ν β where
  known := a.known
  read fs := (a.read fs).map f

end RecordReader

namespace Format

variable {ν α : Type}

/-- The reader of a record, given its name and its fields. -/
def record (F : Format ν) (name : String) (r : RecordReader ν α) (v : ν) : Except Fault α := do
  let fs ← F.fields name r.known v
  let (_, a) ← ((fs.names r.known).both (r.read fs)).toExcept
  match fs.surplus with
  | some f => throw f
  | none => return a

/-- Reads every item, and says where the first faulty one is. -/
def readItems (read : ν → Except Fault α) (position : Nat) : List ν → Except Fault (List α)
  | [] => .ok []
  | v :: rest => do
    let a ← (read v).mapError (Fault.within (.index position))
    let as ← readItems read (position + 1) rest
    return a :: as

/-- A sequence of items. -/
def list (F : Format ν) (read : ν → Except Fault α) (v : ν) : Except Fault (List α) := do
  readItems read 0 (← F.items v)

/-- A null, or a value. -/
def nullable (F : Format ν) (read : ν → Except Fault α) (v : ν) : Except Fault (Option α) := do
  match ← F.optional v with
  | none => return none
  | some v => return some (← read v)

/-- One of the named values of a table. -/
def oneOf (F : Format ν) (table : List (String × α)) (v : ν) : Except Fault α := do
  let names := table.map Prod.fst
  let name ← F.variant names v
  match table.lookup name with
  | some a => return a
  | none => throw (.unknownVariant name names)

/-- A plain text. -/
def string (F : Format ν) (v : ν) : Except Fault String := F.text "a string" v

end Format
end BlueprintControl
