/-!
# Faults of a document

A `Fault` says what is wrong with a part of a document and where that part is. Reading stops at
the fault that comes first in the document, so the reader of a record keeps with each fault the
position of the entry that caused it.

## Main definitions

* `Fault`: a message and the path to the faulty part.
* `Found`: a value, or the earliest fault.
* `Found.both`: two readings of one record.
* `TextFault`: why a text cannot be read.
-/
namespace BlueprintControl

/-- A step from a part of a document to a part of it. -/
inductive Segment where
  | field (name : String)
  | index (i : Nat)
  /-- A member whose name is no plain text. -/
  | unnamed
  deriving DecidableEq, Repr

/-- What is wrong with a part of a document. -/
structure Fault where
  path : List Segment
  message : String
  /-- The fault is put down to the enclosing part. -/
  lifted : Bool
  deriving DecidableEq, Repr

namespace Fault

/-- A fault of the part itself. -/
def here (message : String) : Fault := ⟨[], message, false⟩

/-- A fault that is put down to the enclosing part. -/
def lift (f : Fault) : Fault := { f with lifted := true }

/-- The fault seen from the enclosing part. -/
def within (s : Segment) (f : Fault) : Fault :=
  if f.lifted then { f with lifted := false } else { f with path := s :: f.path }

/-- Something of the wrong type. -/
def invalidType (found expected : String) : Fault :=
  here ("invalid type: " ++ found ++ ", expected " ++ expected)

/-- Something of the right type with a wrong value. -/
def invalidValue (found expected : String) : Fault :=
  here ("invalid value: " ++ found ++ ", expected " ++ expected)

/-- A sequence of the wrong length. -/
def invalidLength (found : Nat) (expected : String) : Fault :=
  here ("invalid length " ++ toString found ++ ", expected " ++ expected)

/-- A field that has to be there and is not. -/
def missingField (name : String) : Fault := here ("missing field `" ++ name ++ "`")

/-- A field that is there twice. -/
def duplicateField (name : String) : Fault := here ("duplicate field `" ++ name ++ "`")

/-- Names between backticks: two with `or`, more after `one of`. -/
def alternatives (names : List String) : String :=
  let ticked := names.map fun n => "`" ++ n ++ "`"
  match ticked with
  | [a, b] => a ++ " or " ++ b
  | [a] => a
  | _ => "one of " ++ ", ".intercalate ticked

/-- A name that is none of the variants. -/
def unknownVariant (found : String) (names : List String) : Fault :=
  here ("unknown variant `" ++ found ++ "`, expected " ++ alternatives names)

end Fault

/-- What has been read of a record: a value, or the position of an entry and its fault. -/
inductive Found (α : Type) where
  | value (a : α)
  | fault (position : Nat) (f : Fault)

namespace Found

variable {α β : Type}

/-- Two readings together; of two faults the earlier one counts. -/
def both (a : Found α) (b : Found β) : Found (α × β) :=
  match a, b with
  | .value a, .value b => .value (a, b)
  | .fault i f, .value _ => .fault i f
  | .value _, .fault j g => .fault j g
  | .fault i f, .fault j g => if i ≤ j then .fault i f else .fault j g

/-- Applies a function to what has been read. -/
def map (f : α → β) : Found α → Found β
  | .value a => .value (f a)
  | .fault i g => .fault i g

/-- The value or the fault, without its position. -/
def toExcept : Found α → Except Fault α
  | .value a => .ok a
  | .fault _ f => .error f

@[simp] theorem both_value (a : α) (b : β) : both (.value a) (.value b) = .value (a, b) := rfl

@[simp] theorem map_value (f : α → β) (a : α) : map f (.value a) = .value (f a) := rfl

@[simp] theorem toExcept_value (a : α) : toExcept (.value a) = .ok a := rfl

end Found

/-- Why a text holds no domain value. -/
inductive TextFault where
  /-- The text is no document at all. -/
  | malformed
  /-- The text is a document of another kind. -/
  | unfit (message : String)
  deriving DecidableEq, Repr

/-- What is said about a text: nothing in detail about one that is no document. -/
def TextFault.message : TextFault → String
  | .malformed => "<syntax>"
  | .unfit message => message

end BlueprintControl
