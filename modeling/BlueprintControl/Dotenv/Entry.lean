import BlueprintControl.Dotenv.Line
import BlueprintControl.Dotenv.Value

/-!
# Entries of a dotenv file

A line gives a variable a value: a key, an equals sign and the value, perhaps behind the word
`export`.

## Main definitions

* `Dotenv.Entry`: a key with the parts of its value.
* `Dotenv.KeyReader`: the rest of a line and how much has been read.
* `Dotenv.readLine`: reads a line.
* `Dotenv.read`: reads a file, as far as it can be read.
-/
namespace BlueprintControl.Dotenv

/-- A key with the parts of its value. -/
structure Entry where
  key : String
  value : List Piece
  deriving DecidableEq, Repr

/-- The rest of a line. -/
structure KeyReader where
  rest : List Char
  /-- How many octets have been read. -/
  index : Nat
  deriving DecidableEq, Repr

namespace KeyReader

/-- Passes over characters. -/
def skipWhile (r : KeyReader) (p : Char → Bool) : KeyReader :=
  ⟨r.rest.dropWhile p, r.index + octets (r.rest.takeWhile p)⟩

/-- Passes over blanks. -/
def skipBlanks (r : KeyReader) : KeyReader := r.skipWhile Text.isBlank

/-- Whether a key goes on with the character. -/
def isKeyChar (c : Char) : Bool := c.isAlphanum || c == '_' || c == '.'

/-- Reads a key and the blanks behind it. -/
def key (r : KeyReader) : Except Nat (String × KeyReader) :=
  match r.rest with
  | c :: _ =>
    if c.isAlpha || c == '_' then
      .ok (String.ofList (r.rest.takeWhile isKeyChar), (r.skipWhile isKeyChar).skipBlanks)
    else .error r.index
  | [] => .error r.index

/-- Reads an equals sign and the blanks behind it. -/
def equals (r : KeyReader) : Except Nat KeyReader :=
  match r.rest with
  | '=' :: rest => .ok (KeyReader.mk rest (r.index + 1)).skipBlanks
  | _ => .error r.index

/-- Reads a key and an equals sign. The word `export` in front of a key is passed over, unless it
is the key. -/
def assignment (r : KeyReader) : Except Nat (String × KeyReader) := do
  let (name, r) ← r.key
  match name, r.equals with
  | name, .ok r => return (name, r)
  | "export", .error _ =>
    let (name, r) ← r.key
    return (name, ← r.equals)
  | _, .error index => throw index

end KeyReader

/-- Whether nothing follows but a comment. -/
def isOver (cs : List Char) : Bool := cs.isEmpty || cs.head? == some '#'

/-- Reads a line, which may be empty. -/
def readLine (line : List Char) : Except Fault (Option Entry) := do
  let start := (KeyReader.mk (Text.trimEnd line) 0).skipBlanks
  if isOver start.rest then return none
  let (key, r) ← start.assignment.mapError (Fault.line line)
  if isOver r.rest then return some ⟨key, []⟩
  let value ← (readValue r.rest).mapError fun index =>
    .line r.rest (index.getD (octets r.rest - 1))
  return some ⟨key, value⟩

/-- Reads lines up to the first that is wrong; `fault` is what is wrong behind them. -/
def readLines (fault : Option Fault) : List (List Char) → List Entry × Option Fault
  | [] => ([], fault)
  | line :: rest => match readLine line with
    | .error f => ([], some f)
    | .ok entry =>
      let (entries, fault) := readLines fault rest
      (entry.toList ++ entries, fault)

/-- The content of a file without the mark at its start. -/
def dropMark : List UInt8 → List UInt8
  | 0xEF :: 0xBB :: 0xBF :: rest => rest
  | octets => octets

/-- Reads a file: all entries in front of what cannot be read. -/
def read (content : ByteArray) : List Entry × Option Fault :=
  let (lines, fault) := joinLines [] .closed
    ((splitLines (dropMark content.data.toList)).map fun line =>
      (String.fromUTF8? ⟨line.toArray⟩).map String.toList)
  readLines fault lines

end BlueprintControl.Dotenv
