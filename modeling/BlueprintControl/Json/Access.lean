import BlueprintControl.Json.Value

/-!
# Looking into JSON values

Reads parts of a value for which there is always a sensible default.

## Main definitions

* `Json.Value.get`, `Json.Value.item`: a member and an item, null if there is none.
* `Json.Value.text`, `Json.Value.natural`, `Json.Value.truth`, `Json.Value.items`: the content.
-/
namespace BlueprintControl.Json.Value

/-- The member of that name, or null. -/
def get (v : Value) (name : String) : Value := (v.member? name).getD .null

/-- Whether a value is null. -/
def isNull : Value → Bool
  | .null => true
  | _ => false

/-- The string, if it is one. -/
def text? : Value → Option String
  | .string s => some s
  | _ => none

/-- The string, or nothing. -/
def text (v : Value) : String := v.text?.getD ""

/-- The number, if it is a natural one. -/
def natural? : Value → Option Nat
  | .number (.integer n) => if 0 ≤ n then some n.toNat else none
  | _ => none

/-- The natural number, or zero. -/
def natural (v : Value) : Nat := v.natural?.getD 0

/-- The truth value, or false. -/
def truth : Value → Bool
  | .bool b => b
  | _ => false

/-- The items of an array. -/
def items : Value → List Value
  | .array vs => vs
  | _ => []

/-- The strings of an array. -/
def texts (v : Value) : List String := v.items.map text

/-- The members of an object. -/
def members : Value → List (String × Value)
  | .object ms => ms
  | _ => []

/-- The item at a place, or null. -/
def item (v : Value) (i : Nat) : Value := (v.items[i]?).getD .null

end BlueprintControl.Json.Value
