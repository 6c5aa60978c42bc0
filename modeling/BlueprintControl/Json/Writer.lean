import BlueprintControl.Uuid
import BlueprintControl.Json.Value

/-!
# Writing JSON

Two layouts: on one line without blanks, and with every item on a line of its own, indented by
two blanks a level. Strings escape quotation marks, backslashes and the characters below U+0020
and leave all others as they are.

## Main definitions

* `Json.Value.compact`: the layout on one line.
* `Json.Value.pretty`: the layout for stored records and reports.
-/
namespace BlueprintControl.Json

/-- The escape of a character inside a string, or the character itself. -/
def escape (c : Char) : List Char :=
  if c = '"' then ['\\', '"']
  else if c = '\\' then ['\\', '\\']
  else if c = '\n' then ['\\', 'n']
  else if c = '\r' then ['\\', 'r']
  else if c = '\t' then ['\\', 't']
  else if c = '\x08' then ['\\', 'b']
  else if c = '\x0c' then ['\\', 'f']
  else if c.toNat < 32 then
    ['\\', 'u', '0', '0', hexDigit (hexPart (c.toNat / 16)), hexDigit (hexPart c.toNat)]
  else [c]

/-- A string between quotation marks. -/
def quoted (s : String) : List Char := '"' :: s.toList.flatMap escape ++ ['"']

/-- An integer in decimal; floats are not written. -/
def Number.text : Number → List Char
  | .integer n => (toString n).toList
  | .float _ => "null".toList

/-- Values without parts. -/
def Value.atom : Value → List Char
  | .bool true => "true".toList
  | .bool false => "false".toList
  | .number n => n.text
  | .string s => quoted s
  | _ => "null".toList

/-- A line break and the indentation of a level. -/
def newline (level : Nat) : List Char := '\n' :: List.replicate (2 * level) ' '

namespace Value

mutual

/-- The indented layout, continued at a level. -/
def prettyChars (level : Nat) : Value → List Char
  | .array [] => ['[', ']']
  | .array (v :: rest) =>
    '[' :: newline (level + 1) ++ prettyChars (level + 1) v ++ prettyItems level rest
  | .object [] => ['\x7b', '\x7d']
  | .object ((name, v) :: rest) =>
    '\x7b' :: newline (level + 1) ++ quoted name ++ ':' :: ' ' :: prettyChars (level + 1) v
      ++ prettyMembers level rest
  | v => v.atom

/-- Further items and the closing bracket. -/
def prettyItems (level : Nat) : List Value → List Char
  | [] => newline level ++ [']']
  | v :: rest =>
    ',' :: newline (level + 1) ++ prettyChars (level + 1) v ++ prettyItems level rest

/-- Further members and the closing brace. -/
def prettyMembers (level : Nat) : List (String × Value) → List Char
  | [] => newline level ++ ['\x7d']
  | (name, v) :: rest =>
    ',' :: newline (level + 1) ++ quoted name ++ ':' :: ' ' :: prettyChars (level + 1) v
      ++ prettyMembers level rest

end

mutual

/-- The layout on one line. -/
def compactChars : Value → List Char
  | .array [] => ['[', ']']
  | .array (v :: rest) => '[' :: compactChars v ++ compactItems rest
  | .object [] => ['\x7b', '\x7d']
  | .object ((name, v) :: rest) =>
    '\x7b' :: quoted name ++ ':' :: compactChars v ++ compactMembers rest
  | v => v.atom

/-- Further items and the closing bracket. -/
def compactItems : List Value → List Char
  | [] => [']']
  | v :: rest => ',' :: compactChars v ++ compactItems rest

/-- Further members and the closing brace. -/
def compactMembers : List (String × Value) → List Char
  | [] => ['\x7d']
  | (name, v) :: rest => ',' :: quoted name ++ ':' :: compactChars v ++ compactMembers rest

end

/-- The text with every item on a line of its own. -/
def pretty (v : Value) : String := String.ofList (prettyChars 0 v)

/-- The text on one line. -/
def compact (v : Value) : String := String.ofList (compactChars v)

end Value
end BlueprintControl.Json
