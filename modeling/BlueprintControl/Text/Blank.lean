/-!
# Blank characters

A character is blank if it has the Unicode property `White_Space`. Names, markers and
document identifiers count as empty when they hold blank characters only.

## Main definitions

* `Text.isBlank`: the property, for every character.
* `Text.trim`, `Text.trimStart`: a list of characters without its blank ends.
* `Text.isBlankString`: whether nothing but blanks is left of a string.
-/
namespace BlueprintControl.Text

/-- Whether the character has the Unicode property `White_Space`. -/
def isBlank (c : Char) : Bool :=
  let n := c.toNat
  (0x9 ≤ n && n ≤ 0xD) || n == 0x20 || n == 0x85 || n == 0xA0 || n == 0x1680 ||
    (0x2000 ≤ n && n ≤ 0x200A) || n == 0x2028 || n == 0x2029 || n == 0x202F ||
    n == 0x205F || n == 0x3000

/-- Drops leading blanks. -/
def trimStart (cs : List Char) : List Char := cs.dropWhile isBlank

/-- Drops trailing blanks. -/
def trimEnd (cs : List Char) : List Char := (trimStart cs.reverse).reverse

/-- Drops the blanks at both ends. -/
def trim (cs : List Char) : List Char := trimEnd (trimStart cs)

/-- Whether a string is empty or holds blanks only. -/
def isBlankString (s : String) : Bool := s.toList.all isBlank

end BlueprintControl.Text
