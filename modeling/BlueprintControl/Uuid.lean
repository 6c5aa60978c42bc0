/-!
# Unique event identifiers

A `Uuid` is a sequence of 32 hexadecimal digits. It is written in lower case in five groups; the
reader also accepts the plain digits, braces around the groups and a leading `urn:uuid:`.

## Main definitions

* `Uuid.render`, `Uuid.parse`: the written form and its reader.
* `Uuid.Malformed`: why a text is no identifier.
* `Uuid.random`: the version 4 identifier for 16 octets of randomness.
-/
namespace BlueprintControl

/-- The last hexadecimal digit of a number. -/
def hexPart (n : Nat) : Fin 16 := Fin.ofNat 16 n

/-- The value of a hexadecimal digit in either case. -/
def hexValue? (c : Char) : Option (Fin 16) :=
  if '0' ≤ c ∧ c ≤ '9' then some (hexPart (c.toNat - 48))
  else if 'a' ≤ c ∧ c ≤ 'f' then some (hexPart (c.toNat - 87))
  else if 'A' ≤ c ∧ c ≤ 'F' then some (hexPart (c.toNat - 55))
  else none

/-- The lower-case hexadecimal digit of a value. -/
def hexDigit (n : Fin 16) : Char :=
  if n.val < 10 then Char.ofNat (n.val + 48) else Char.ofNat (n.val + 87)

@[simp] theorem hexValue?_hexDigit (n : Fin 16) : hexValue? (hexDigit n) = some n := by
  revert n; decide

/-- An identifier of 32 hexadecimal digits. -/
structure Uuid where
  digits : List (Fin 16)
  length_digits : digits.length = 32
  deriving DecidableEq

namespace Uuid

instance : Inhabited Uuid := ⟨⟨List.replicate 32 0, by simp⟩⟩

/-- The version, which is the thirteenth digit. -/
def version (u : Uuid) : Nat := (u.digits[12]?.getD 0).val

/-- The five hyphenated groups in lower case. -/
def renderChars (u : Uuid) : List Char :=
  let d := u.digits.map hexDigit
  d.take 8 ++ '-' :: (d.drop 8).take 4 ++ '-' :: (d.drop 12).take 4 ++
    '-' :: (d.drop 16).take 4 ++ '-' :: d.drop 20

/-- The five hyphenated groups in lower case. -/
def render (u : Uuid) : String := String.ofList u.renderChars

/-- Why a text is no identifier. -/
inductive Malformed where
  | character (found : Char) (position : Nat)
  | simpleLength (found : Nat)
  | groupCount (found : Nat)
  | groupLength (group expected found : Nat)
  deriving DecidableEq

/-- What is said of a text that is no identifier. -/
def Malformed.message : Malformed → String
  | .character found position =>
    "invalid character: expected an optional prefix of `urn:uuid:` followed by [0-9a-fA-F-], found `"
      ++ found.toString ++ "` at " ++ toString position
  | .simpleLength found =>
    "invalid length: expected length 32 for simple format, found " ++ toString found
  | .groupCount found => "invalid group count: expected 5, found " ++ toString found
  | .groupLength group expected found =>
    "invalid group length in group " ++ toString group ++ ": expected " ++ toString expected
      ++ ", found " ++ toString found

/-- Thirty-two hexadecimal digits. -/
def ofDigits? (cs : List Char) : Option Uuid :=
  match cs.mapM hexValue? with
  | none => none
  | some ds => if h : ds.length = 32 then some ⟨ds, h⟩ else none

/-- Five groups of 8, 4, 4, 4 and 12 digits, separated by hyphens. -/
def ofGroups? (cs : List Char) : Option Uuid :=
  if cs[8]? = some '-' ∧ cs[13]? = some '-' ∧ cs[18]? = some '-' ∧ cs[23]? = some '-' then
    ofDigits? (cs.take 8 ++ (cs.drop 9).take 4 ++ (cs.drop 14).take 4 ++
      (cs.drop 19).take 4 ++ cs.drop 24)
  else none

/-- The text without braces or a leading `urn:uuid:`, the number of octets taken off in front,
and whether nothing was taken off. -/
def unwrap (cs : List Char) : List Char × Nat × Bool :=
  let urn := "urn:uuid:".toList
  if cs.head? = some '\x7b' ∧ cs.getLast? = some '\x7d' ∧ 2 ≤ cs.length then
    ((cs.drop 1).dropLast, 1, false)
  else if urn.isPrefixOf cs then (cs.drop urn.length, urn.length, false)
  else (cs, 0, true)

/-- The first character that is neither a hexadecimal digit nor a hyphen, with its octet
position. -/
def strayCharacter? (cs : List Char) (position : Nat) : Option (Char × Nat) :=
  match cs with
  | [] => none
  | c :: rest =>
    if c = '-' ∨ (hexValue? c).isSome then strayCharacter? rest (position + c.utf8Size)
    else some (c, position)

/-- Positions of the hyphens. -/
def hyphens (cs : List Char) : List Nat :=
  (cs.zipIdx.filter (fun p => p.1 == '-')).map Prod.snd

/-- The first group whose closing hyphen is not where it belongs. -/
def misplacedGroup? (ends : List Nat) (group : Nat) (starts sizes : List Nat) :
    Option Malformed :=
  match ends, starts, sizes with
  | e :: es, s :: ss, n :: ns =>
    if e = s + n then misplacedGroup? es (group + 1) ss ns
    else some (.groupLength group n (e - s))
  | _, _, _ => none

/-- What is wrong with a text that is no identifier. -/
def diagnose (cs : List Char) : Malformed :=
  let (body, taken, bare) := unwrap cs
  let total := cs.foldl (fun n c => n + c.utf8Size) 0
  match strayCharacter? body 0 with
  | some (c, position) => .character c (position + taken + 1)
  | none =>
    let ends := hyphens body
    if ends.isEmpty && bare then .simpleLength total
    else if ends.length ≠ 4 then .groupCount (ends.length + 1)
    else (misplacedGroup? ends 0 [0, 9, 14, 19] [8, 4, 4, 4]).getD
      (.groupLength 4 12 (total - 24))

/-- The digits of a text of one of the accepted shapes. -/
def parse? (cs : List Char) : Option Uuid :=
  let (body, _, _) := unwrap cs
  if cs.length = 32 then ofDigits? cs
  else if body.length = 36 then ofGroups? body
  else none

/-- Reads an identifier. -/
def parse (text : String) : Except Malformed Uuid :=
  match parse? text.toList with
  | some u => .ok u
  | none => .error (diagnose text.toList)

/-- The version 4 identifier of 32 random digits. -/
def random (digit : Nat → Fin 16) : Uuid :=
  ⟨(List.range 32).map fun i =>
    if i = 12 then 4 else if i = 16 then hexPart (8 + (digit i).val % 4) else digit i,
    by simp⟩

end Uuid
end BlueprintControl
