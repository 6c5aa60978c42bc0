import BlueprintControl.Text.Blank

/-!
# Lines of a dotenv file

A line whose quotes are still open goes on in the next one. A number sign behind a blank starts a
comment, which ends the line; a line that starts with one is empty. A file must not end while
quotes are open, nor in a backslash or a blank.

## Main definitions

* `Dotenv.Quoting`: what is open in a line.
* `Dotenv.joinLines`: the lines of a file with all their continuations.
-/
namespace BlueprintControl.Dotenv

/-- What is open in a line. -/
inductive Quoting where
  | closed
  | escaped
  | strong
  | strongEscaped
  | weak
  | weakEscaped
  /-- Nothing, and the last character was a blank. -/
  | blank
  deriving DecidableEq, Repr

namespace Quoting

/-- What a character opens outside quotes. -/
def opened : Char → Quoting
  | '\\' => .escaped
  | '"' => .weak
  | '\'' => .strong
  | _ => .closed

/-- What is open behind a character; nothing if a comment begins. -/
def feed (c : Char) : Quoting → Option Quoting
  | .blank => if c == '#' then none else some (opened c)
  | .closed => some (if Text.isBlank c && c != '\n' && c != '\r' then .blank else opened c)
  | .escaped => some .closed
  | .weak => some <| match c with
    | '\\' => .weakEscaped
    | '"' => .closed
    | _ => .weak
  | .weakEscaped => some .weak
  | .strong => some <| match c with
    | '\\' => .strongEscaped
    | '\'' => .closed
    | _ => .strong
  | .strongEscaped => some .strong

/-- What is open behind characters, or the characters in front of a comment. -/
def scan (q : Quoting) : List Char → Except (List Char) Quoting
  | [] => .ok q
  | c :: rest => match q.feed c with
    | none => .error []
    | some q => (q.scan rest).mapError (c :: ·)

end Quoting

/-- Why a file cannot be read to its end. -/
inductive Fault where
  /-- A line is wrong at an index. -/
  | line (text : List Char) (index : Nat)
  /-- Something is no text. -/
  | notText
  deriving DecidableEq, Repr

/-- The number of octets of a text. -/
def octets (cs : List Char) : Nat := cs.foldl (fun n c => n + c.utf8Size) 0

/-- Drops the end of a line. -/
def dropLineEnd (cs : List Char) : List Char :=
  match cs.reverse with
  | '\n' :: '\r' :: rest | '\n' :: rest => rest.reverse
  | _ => cs

/-- Joins lines to what is open, given the text that has been read since it was opened. A line
that is no text ends the file. -/
def joinLines (read : List Char) (q : Quoting) :
    List (Option (List Char)) → List (List Char) × Option Fault
  | [] => ([], if q = .closed then none else some (.line read (octets read)))
  | none :: _ => ([], some .notText)
  | some line :: rest =>
    let all := read ++ line
    let ended (text : List Char) :=
      let (lines, fault) := joinLines [] .closed rest
      (text :: lines, fault)
    if (Text.trimStart all).head? = some '#' then ended []
    else match q.scan line with
      | .error kept => ended (read ++ kept)
      | .ok .closed => ended (dropLineEnd all)
      | .ok q => joinLines all q rest

/-- The lines of a file, each with the newline at its end. -/
def splitLines (octets : List UInt8) : List (List UInt8) :=
  octets.foldr (fun o lines => if o == 10 then [o] :: lines else match lines with
    | (p :: line) :: rest => (o :: p :: line) :: rest
    | lines => [o] :: lines) []

end BlueprintControl.Dotenv
