import BlueprintControl.Yaml.Scalar
import BlueprintControl.Yaml.Token

/-!
# Anchors, tags and directives

An anchor gives a node a name, an alias refers to it, a tag gives it a type. Directives stand in
front of a document: they state the version of the language and abbreviate tags.

## Main definitions

* `anchorName?`, `tagName?`, `directive?`: read what follows the indicator.
-/
namespace BlueprintControl.Yaml

/-- The name behind `&` or `*`. -/
def anchorName? (c : Cursor) : Option (List Char × Cursor) :=
  let (name, c) := c.skip.takeWhile isWordChar
  if !name.isEmpty && (atGap c.rest || c.next?.any "?:,]\x7d%@\x60".toList.contains) then
    some (name, c)
  else none

/-- The number of octets of a character whose first octet is given. -/
def octetCount (first : Nat) : Nat :=
  if first < 0x80 then 1 else if first < 0xC0 then 0 else if first < 0xE0 then 2
  else if first < 0xF0 then 3 else if first < 0xF8 then 4 else 0

/-- The octet written as a percent sign and two hexadecimal digits. -/
def percentOctet? : List Char → Option Nat
  | '%' :: rest => hexNumber? 0 2 rest
  | _ => none

/-- The further octets of a character, six bits each. -/
def percentTail? (code : Nat) : Nat → List Char → Option Nat
  | 0, _ => some code
  | n + 1, cs => do
    let octet ← percentOctet? cs
    if octet / 64 = 2 then percentTail? (code * 64 + octet % 64) n (cs.drop 3) else none

/-- A character written octet by octet, and the number of octets. -/
def percentChar? (cs : List Char) : Option (Char × Nat) := do
  let first ← percentOctet? cs
  let n := octetCount first
  if n = 0 then none
  else
    let bits := if n = 1 then first else first % Nat.pow 2 (7 - n)
    let code ← percentTail? bits (n - 1) (cs.drop 3)
    return ((charOf? code).getD '\ufffd', n)

/-- Whether a character may stand in a tag; more may in one between angle brackets. -/
def isTagChar (verbatim : Bool) (c : Char) : Bool :=
  isWordChar c || ";/?:@&=+$.%!~*'()".toList.contains c || (verbatim && ",[]".toList.contains c)

/-- The text of a tag, given what has been read, last character first. -/
def tagTextFrom? (verbatim : Bool) : Nat → List Char → Cursor → Option (List Char × Cursor)
  | 0, _, _ => none
  | fuel + 1, acc, c =>
    match c.next? with
    | none => some (acc.reverse, c)
    | some x =>
      if x = '%' then do
        let (y, n) ← percentChar? c.rest
        tagTextFrom? verbatim fuel (y :: acc) (c.skipMany (3 * n))
      else if isTagChar verbatim x then tagTextFrom? verbatim fuel (x :: acc) c.skip
      else some (acc.reverse, c)

/-- The text of a tag. -/
def tagText? (verbatim : Bool) (c : Cursor) : Option (List Char × Cursor) :=
  tagTextFrom? verbatim (c.rest.length + 1) [] c

/-- The handle of a tag: `!`, a word, and a second `!` if there is one. -/
def tagHandle? (c : Cursor) : Option (List Char × Cursor) :=
  if c.sees '!' then
    let (word, c) := c.skip.takeWhile isWordChar
    if c.sees '!' then some ('!' :: word ++ ['!'], c.skip) else some ('!' :: word, c)
  else none

/-- The tag at an exclamation mark, whatever follows it. -/
def bareTag? (c : Cursor) : Option (TagName × Cursor) := do
  if c.skip.sees '<' then
    let (text, c) ← tagText? true (c.skipMany 2)
    if text.isEmpty || !c.sees '>' then none else return (⟨[], text⟩, c.skip)
  else
    let (handle, c) ← tagHandle? c
    let (text, c) ← tagText? false c
    if 1 < handle.length && handle.getLast? == some '!' then
      if text.isEmpty then none else return (⟨handle, text⟩, c)
    else
      let suffix := handle.drop 1 ++ text
      if suffix.isEmpty then return (⟨[], ['!']⟩, c) else return (⟨['!'], suffix⟩, c)

/-- The tag at an exclamation mark; a gap follows, or inside brackets a comma. -/
def tagName? (inFlow : Bool) (c : Cursor) : Option (TagName × Cursor) := do
  let (t, c) ← bareTag? c
  if atGap c.rest || (inFlow && c.sees ',') then return (t, c) else none

/-- One of the two numbers of a version. -/
def versionNumber? (c : Cursor) : Option (Nat × Cursor) :=
  let (digits, c) := c.takeWhile isDigit
  if digits.isEmpty || 9 < digits.length then none
  else some (digits.foldl (fun n x => n * 10 + (x.toNat - 48)) 0, c)

/-- The version of the language. -/
def version? (c : Cursor) : Option (Token × Cursor) := do
  let (major, c) ← versionNumber? c.skipSpaces
  if !c.sees '.' then none
  let (minor, c) ← versionNumber? c.skip
  return (.version major minor, c)

/-- An abbreviation for the beginning of tags. -/
def abbreviation? (c : Cursor) : Option (Token × Cursor) := do
  let (handle, c) ← tagHandle? c.skipSpaces
  if handle ≠ ['!'] ∧ handle.getLast? ≠ some '!' then none
  if !c.next?.any isSpace then none
  let (stem, c) ← tagText? true c.skipSpaces
  if stem.isEmpty || !atGap c.rest then none else return (.abbreviation handle stem, c)

/-- A directive, from its percent sign to the end of its line. -/
def directive? (c : Cursor) : Option (Token × Cursor) := do
  let (name, c) := c.skip.takeWhile isWordChar
  if !atGap c.rest then none
  let (t, c) ←
    if name = "YAML".toList then version? c
    else if name = "TAG".toList then abbreviation? c
    else none
  let c := c.skipSpaces
  let c := if c.sees '#' then c.skipLine else c
  if atBreak c.rest then return (t, c.skipBreak) else none

end BlueprintControl.Yaml
