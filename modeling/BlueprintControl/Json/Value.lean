/-!
# JSON values

The values that requests, stored records and printed reports are made of. Members of an object
keep their order. One extra value stands for text that is well formed but denotes nothing: a
string with an unpaired surrogate, an object with such a member name, or a number past every
float. Such a text may stand where nobody looks at it and is refused everywhere else.

## Main definitions

* `Json.Value`, `Json.Number`: values and numbers.
* `Json.Value.intact`: whether every part of a value denotes something and nesting is bounded.
-/
namespace BlueprintControl.Json

/-- A number: an integer of at most 64 bits, or the bits of a double. -/
inductive Number where
  | integer (n : Int)
  | float (bits : UInt64)
  deriving DecidableEq, Repr

/-- A JSON value. -/
inductive Value where
  | null
  | bool (b : Bool)
  | number (n : Number)
  | string (s : String)
  | array (items : List Value)
  | object (members : List (String × Value))
  /-- Well-formed text without a meaning. -/
  | void
  deriving Repr, Inhabited, BEq

namespace Value

/-- A natural number as a value. -/
def nat (n : Nat) : Value := .number (.integer n)

/-- A string, or null. -/
def ofOption (s : Option String) : Value := match s with
  | some s => .string s
  | none => .null

/-- The last member of that name. -/
def member? (v : Value) (name : String) : Option Value := match v with
  | .object members => (members.reverse.find? (fun m => m.1 == name)).map Prod.snd
  | _ => none

/-- Deepest nesting of containers that readers of whole values accept. -/
def depthLimit : Nat := 127

mutual

/-- Whether every part denotes something and containers nest at most `depth` deep. -/
def intactWithin (depth : Nat) : Value → Bool
  | .void => false
  | .array items => match depth with
    | 0 => false
    | depth + 1 => allIntact depth items
  | .object members => match depth with
    | 0 => false
    | depth + 1 => membersIntact depth members
  | _ => true

/-- All items are intact. -/
def allIntact (depth : Nat) : List Value → Bool
  | [] => true
  | v :: rest => intactWithin depth v && allIntact depth rest

/-- All members are intact. -/
def membersIntact (depth : Nat) : List (String × Value) → Bool
  | [] => true
  | (_, v) :: rest => intactWithin depth v && membersIntact depth rest

end

/-- Whether the whole value denotes something and is not nested too deeply. -/
def intact (v : Value) : Bool := intactWithin depthLimit v

end Value
end BlueprintControl.Json
