import BlueprintControl.Text.Printable

/-!
# Quoted text

Texts in messages stand between quotation marks. Characters that cannot be seen, and marks that
would combine with what stands before them, are written as escapes.

## Main definitions

* `Text.escapeInMessage`: the written form of a character.
* `Text.quote`: a text between quotation marks.
-/
namespace BlueprintControl.Text

/-- Lower-case hexadecimal digits without leading zeros. -/
def hexText (n : Nat) : List Char := Nat.toDigits 16 n

/-- The written form of a character inside quotation marks. -/
def escapeInMessage (c : Char) : List Char :=
  if c = '\x00' then ['\\', '0']
  else if c = '\t' then ['\\', 't']
  else if c = '\r' then ['\\', 'r']
  else if c = '\n' then ['\\', 'n']
  else if c = '"' then ['\\', '"']
  else if c = '\\' then ['\\', '\\']
  else if isPrintable c && !isGraphemeExtender c then [c]
  else '\\' :: 'u' :: '\x7b' :: hexText c.toNat ++ ['\x7d']

/-- A text between quotation marks. -/
def quote (s : String) : String :=
  String.ofList ('"' :: s.toList.flatMap escapeInMessage ++ ['"'])

end BlueprintControl.Text
