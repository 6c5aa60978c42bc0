/-!
# Reading position

A `Cursor` is what is left of a text together with the place where that is: line, column and
number of characters passed. Lines end with a line feed, a carriage return or both, with NEL, or
with one of the two Unicode separators; only the separators are kept as they are.

## Main definitions

* `Cursor`: the rest of the text and its place.
* `Cursor.skip`, `Cursor.skipWhile`, `Cursor.skipBreak`: the ways to move on.
* `Cursor.startsDocument`: whether a line marks a border between documents.
-/
namespace BlueprintControl.Yaml

/-- A space or a tab. -/
def isSpace (c : Char) : Bool := c == ' ' || c == '\t'

/-- A character that ends a line. -/
def isBreak (c : Char) : Bool :=
  c == '\n' || c == '\r' || c == '\u0085' || c == '\u2028' || c == '\u2029'

/-- A character that words do not contain. -/
def isGap (c : Char) : Bool := isSpace c || isBreak c

/-- A letter, a digit, a hyphen or an underscore. -/
def isWordChar (c : Char) : Bool :=
  ('0' ≤ c && c ≤ '9') || ('A' ≤ c && c ≤ 'Z') || ('a' ≤ c && c ≤ 'z') || c == '_' || c == '-'

/-- A decimal digit. -/
def isDigit (c : Char) : Bool := '0' ≤ c && c ≤ '9'

/-- A character that may stand in a document. -/
def isAllowed (c : Char) : Bool :=
  c == '\t' || c == '\n' || c == '\r' || (' ' ≤ c && c ≤ '~') || c == '\u0085'
    || ('\u00a0' ≤ c && c ≤ '\ufffd') || '\uffff' < c

/-- Whether a text is at its end or in front of a gap. -/
def atGap : List Char → Bool
  | [] => true
  | c :: _ => isGap c

/-- Whether a text is at its end or in front of a line break. -/
def atBreak : List Char → Bool
  | [] => true
  | c :: _ => isBreak c

/-- The rest of a text and where it begins. -/
structure Cursor where
  rest : List Char
  /-- Number of characters passed. -/
  index : Nat
  line : Nat
  column : Nat
  deriving Repr

namespace Cursor

/-- The beginning of a text. -/
def start (cs : List Char) : Cursor := ⟨cs, 0, 0, 0⟩

/-- The next character. -/
def next? (c : Cursor) : Option Char := c.rest.head?

/-- Whether the next character is this one. -/
def sees (c : Cursor) (x : Char) : Bool := c.next? == some x

/-- Moves past some characters of the same line. -/
def skipMany (n : Nat) (c : Cursor) : Cursor :=
  { c with rest := c.rest.drop n, index := c.index + n, column := c.column + n }

/-- Moves past one character of the same line. -/
def skip (c : Cursor) : Cursor := c.skipMany 1

/-- The characters up to the first that fails the test, all of one line, and what follows. -/
def takeWhile (p : Char → Bool) (c : Cursor) : List Char × Cursor :=
  let word := c.rest.takeWhile p
  (word, c.skipMany word.length)

/-- Moves past the characters that pass the test, all of one line. -/
def skipWhile (p : Char → Bool) (c : Cursor) : Cursor := (c.takeWhile p).2

/-- Moves past spaces and tabs. -/
def skipSpaces (c : Cursor) : Cursor := c.skipWhile isSpace

/-- Moves to the end of the line. -/
def skipLine (c : Cursor) : Cursor := c.skipWhile fun x => !isBreak x

/-- Starts a new line after some characters. -/
def newLine (n : Nat) (c : Cursor) : Cursor := ⟨c.rest.drop n, c.index + n, c.line + 1, 0⟩

/-- Reads a line break; nothing is read if there is none. -/
def readBreak (c : Cursor) : List Char × Cursor :=
  match c.rest with
  | '\r' :: '\n' :: _ => (['\n'], c.newLine 2)
  | x :: _ =>
    if x = '\u2028' ∨ x = '\u2029' then ([x], c.newLine 1)
    else if isBreak x then (['\n'], c.newLine 1)
    else ([], c)
  | [] => ([], c)

/-- Moves past a line break, if there is one. -/
def skipBreak (c : Cursor) : Cursor := c.readBreak.2

/-- Whether the line is a mark, three times the same character, followed by a gap. -/
def isMark (x : Char) (c : Cursor) : Bool :=
  c.column == 0 && (match c.rest with
    | a :: b :: d :: rest => a == x && b == x && d == x && atGap rest
    | _ => false)

/-- Whether the line marks the start or the end of a document. -/
def startsDocument (c : Cursor) : Bool := c.isMark '-' || c.isMark '.'

end Cursor
end BlueprintControl.Yaml
