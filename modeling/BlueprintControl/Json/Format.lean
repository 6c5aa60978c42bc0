import BlueprintControl.Json.Reader
import BlueprintControl.Schema.Format
import BlueprintControl.Text.Quoted

/-!
# JSON as a document format

Records are objects, or arrays with the fields in order of declaration. A variant is a string, or
an object with the name as its only member and null as its value. There are two sources of a
node: a text that is being read, and a value that has been read before; they differ in the
wording of a few faults and in the order of members, which a read value keeps sorted by name.

## Main definitions

* `Json.Source`, `Json.format`: the format for either source.
* `Json.decodeText`: reads a domain value from a text.
* `Json.decodeValue`: reads a domain value from a value.
-/
namespace BlueprintControl.Json

/-- Where a node comes from. -/
inductive Source where
  | text
  | value
  deriving DecidableEq, Repr

/-- How a value is called in a fault. -/
def Value.describe : Value → String
  | .null => "null"
  | .bool b => "boolean `" ++ toString b ++ "`"
  | .number (.integer n) => "integer `" ++ toString n ++ "`"
  | .number (.float bits) => "floating point `" ++ Double.text bits ++ "`"
  | .string s => "string " ++ Text.quote s
  | .array _ => "sequence"
  | .object _ => "map"
  | .void => "nothing"

/-- A string of the expected kind. -/
def text (expected : String) : Value → Except Fault String
  | .string s => .ok s
  | v => .error (.invalidType v.describe expected)

/-- A boolean. -/
def flag : Value → Except Fault Bool
  | .bool b => .ok b
  | v => .error (.invalidType v.describe "a boolean")

/-- A natural number of 64 bits. -/
def count : Value → Except Fault UInt64
  | .number (.integer n) =>
    if 0 ≤ n ∧ n < UInt64.size then .ok n.toNat.toUInt64
    else .error (.invalidValue (Value.number (.integer n)).describe "u64")
  | v => .error (.invalidType v.describe "u64")

/-- Anything but null. -/
def optional : Value → Except Fault (Option Value)
  | .null => .ok none
  | v => .ok (some v)

/-- The items of an array. -/
def items : Value → Except Fault (List Value)
  | .array vs => .ok vs
  | v => .error (.invalidType v.describe "a sequence")

/-- Accepts a name that is one of the variants. -/
def known (names : List String) (name : String) : Except Fault String :=
  if names.contains name then .ok name else .error (.unknownVariant name names)

/-- A variant without parts: nothing but null may go with its name. -/
def bare (names : List String) (name : String) (v : Value) : Except Fault String := do
  let name ← known names name
  match v with
  | .null => return name
  | v => throw (.invalidType v.describe "unit")

/-- One of the variants. -/
def variant (source : Source) (names : List String) : Value → Except Fault String
  | .string s => known names s
  | .object members =>
    match source, members with
    | .text, (name, v) :: rest => do
      let name ← bare names name v
      if rest.isEmpty then return name else throw (.here "expected value")
    | .text, [] => .error (.here "expected value")
    | .value, [(name, v)] => bare names name v
    | .value, _ => .error (.invalidValue "map" "map with a single key")
  | v => match source with
    | .text => .error (.here "expected value")
    | .value => .error (.invalidType v.describe "string or map")

/-- The record of a type as it is expected: its name and its number of fields. -/
def recordOf (name : String) (size : Nat) : String :=
  "struct " ++ name ++ " with " ++ toString size ++ if size = 1 then " element" else " elements"

/-- The entries of a record. -/
def fields (source : Source) (name : String) (names : List String) :
    Value → Except Fault (Fields Value)
  | .object members => .ok {
      entries := members.map fun m => (.ok m.1, m.2)
      segment := fun i => .index i
      missing := Fault.missingField
      surplus := none }
  | .array vs => .ok {
      entries := (names.zip vs).map fun m => (.ok m.1, m.2)
      segment := fun i => .index i
      missing := fun field =>
        .invalidLength (names.findIdx (fun n => n == field)) (recordOf name names.length)
      surplus :=
        if vs.length ≤ names.length then none
        else match source with
          | .text => some (.here "trailing characters")
          | .value => some (.invalidLength vs.length "fewer elements in array") }
  | v => .error (.invalidType v.describe ("struct " ++ name))

/-- JSON as a document format. -/
def format (source : Source) : Format Value where
  text := text
  flag := flag
  count := count
  optional := optional
  items := items
  variant := variant source
  fields := fields source

/-- Sorts members by name and keeps the last of each name. -/
def insertMember (m : String × Value) : List (String × Value) → List (String × Value)
  | [] => [m]
  | n :: rest =>
    if m.1 = n.1 then m :: rest
    else if m.1 < n.1 then m :: n :: rest
    else n :: insertMember m rest

mutual

/-- The value with the members of every object sorted by name. -/
def sorted : Value → Value
  | .array vs => .array (sortedItems vs)
  | .object ms => .object (sortedMembers ms)
  | v => v

/-- Every item with its members sorted. -/
def sortedItems : List Value → List Value
  | [] => []
  | v :: rest => sorted v :: sortedItems rest

/-- Members sorted by name. -/
def sortedMembers : List (String × Value) → List (String × Value)
  | [] => []
  | (name, v) :: rest =>
    let tail := sortedMembers rest
    if tail.any (fun m => m.1 == name) then tail else insertMember (name, sorted v) tail

end

/-- Reads a domain value from a value. -/
def decodeValue {α : Type} (read : Format Value → Value → Except Fault α) (v : Value) :
    Except String α :=
  (read (format .value) (sorted v)).mapError Fault.message

/-- Reads a domain value from the value of a text, if the text has one. -/
def decodeRead {α : Type} (read : Format Value → Value → Except Fault α) (v : Option Value) :
    Except TextFault α :=
  match v with
  | none => .error .malformed
  | some v => match read (format .text) v with
    | .ok a => .ok a
    | .error f => if v.intact then .error (.unfit f.message) else .error .malformed

/-- Reads a domain value from a text. -/
def decodeText {α : Type} (read : Format Value → Value → Except Fault α) (text : String) :
    Except TextFault α :=
  decodeRead read (Value.read? text)

end BlueprintControl.Json
