import BlueprintControl.Text.Alphanumeric

/-!
# Values in a dotenv file

A value may be quoted, strongly between apostrophes or weakly between quotation marks. Outside
strong quotes a backslash escapes a character, and a dollar sign starts the name of a variable,
which may stand in braces. Behind a blank outside quotes only a comment may follow.

## Main definitions

* `Dotenv.Piece`: a part of a value, written out or a variable.
* `Dotenv.ValueReader`: how far a value has been read.
* `Dotenv.readValue`: reads a value, or tells where it goes wrong.
-/
namespace BlueprintControl.Dotenv

/-- A part of a value. -/
inductive Piece where
  | char (c : Char)
  /-- The value of a variable. -/
  | value (name : String)
  deriving DecidableEq, Repr

/-- Where in a value the next character stands. -/
inductive ValueReader where
  /-- Outside quotes. -/
  | bare
  /-- Between apostrophes. -/
  | strong
  /-- Between quotation marks. -/
  | weak
  /-- Behind a backslash. -/
  | escaped (isWeak : Bool)
  /-- In a name, of which some has been read. -/
  | name (isWeak braced : Bool) (read : List Char)
  /-- Behind the value. -/
  | ended
  | comment
  deriving DecidableEq, Repr

namespace ValueReader

/-- Outside strong quotes. -/
def plain (isWeak : Bool) : ValueReader := if isWeak then .weak else .bare

/-- What a character behind a backslash stands for. -/
def escape? : Char → Option Char
  | 'n' => some '\n'
  | c => if "\\'\"$ ".toList.contains c then some c else none

/-- Reads a character: the parts that are completed, and what comes next. -/
def feed (c : Char) : ValueReader → Option (List Piece × ValueReader)
  | .ended =>
    if c == ' ' || c == '\t' then some ([], .ended)
    else if c == '#' then some ([], .comment)
    else none
  | .comment => some ([], .comment)
  | .escaped isWeak => (escape? c).map fun d => ([.char d], plain isWeak)
  | .strong => some (if c == '\'' then ([], .bare) else ([.char c], .strong))
  | .name isWeak braced read =>
    let known := Piece.value (String.ofList read)
    some <|
      if Text.isAlphanumeric c then ([], .name isWeak braced (read ++ [c]))
      else if braced then
        if c == '}' then ([known], plain isWeak) else ([], .name isWeak true (read ++ [c]))
      else if c == '{' && read.isEmpty then ([], .name isWeak true [])
      else if c == '$' then ([known], .name isWeak false [])
      else ([known, .char c], plain isWeak)
  | .weak => some <| match c with
    | '$' => ([], .name true false [])
    | '"' => ([], .bare)
    | '\\' => ([], .escaped true)
    | c => ([.char c], .weak)
  | .bare => some <| match c with
    | '$' => ([], .name false false [])
    | '\'' => ([], .strong)
    | '"' => ([], .weak)
    | '\\' => ([], .escaped false)
    | ' ' | '\t' => ([], .ended)
    | c => ([.char c], .bare)

/-- What is completed by the end of the value, unless something is still open. -/
def finish : ValueReader → Option (List Piece)
  | .strong | .weak | .escaped true | .name true _ _ | .name _ true _ => none
  | .name false false read => some [.value (String.ofList read)]
  | .bare | .escaped false | .ended | .comment => some []

end ValueReader

/-- Reads the rest of a value, whose next character has the number `index`. If it cannot be read,
the answer is the number of the offending character, or none if the end comes too early. -/
def readRest (state : ValueReader) (index : Nat) : List Char → Except (Option Nat) (List Piece)
  | [] => match state.finish with
    | some last => .ok last
    | none => .error none
  | c :: rest => match state.feed c with
    | none => .error (some index)
    | some (pieces, next) => (readRest next (index + 1) rest).map (pieces ++ ·)

/-- Reads a value. -/
def readValue (cs : List Char) : Except (Option Nat) (List Piece) := readRest .bare 0 cs

end BlueprintControl.Dotenv
