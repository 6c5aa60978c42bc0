import BlueprintControl.Json.Token

/-!
# Reading JSON

The tokens are taken in one at a time. A `Builder` holds the containers that are still open and
says what it expects next; the reader is a fold over the tokens, so it stops on every input.

## Main definitions

* `Json.Builder.accept`: one step.
* `Json.Value.read?`: the value of a text, or nothing if the text is malformed.
* `Json.Value.readOctets?`: the same for octets; those that are no UTF-8 may stand in strings
  that nobody reads.
-/
namespace BlueprintControl.Json

/-- An open container, last part first. -/
inductive Frame where
  | array (items : List Value)
  /-- Members so far, whether all names are readable, and the name whose value is being read. -/
  | object (members : List (String × Value)) (readable : Bool) (name : Option String)
  deriving Repr

/-- What may come next. -/
inductive Expected where
  | value
  | valueOrClose
  | name
  | nameOrClose
  | colon
  | commaOrClose
  | nothing
  deriving DecidableEq, Repr

/-- The open containers, innermost first, and what may come next. -/
structure Builder where
  frames : List Frame
  expected : Expected
  result : Option Value
  deriving Repr

namespace Builder

/-- Before the first token. -/
def initial : Builder := ⟨[], .value, none⟩

/-- Puts a finished value where it belongs. -/
def place (frames : List Frame) (v : Value) : Builder :=
  match frames with
  | [] => ⟨[], .nothing, some v⟩
  | .array items :: rest => ⟨.array (v :: items) :: rest, .commaOrClose, none⟩
  | .object members readable name :: rest =>
    ⟨.object ((name.getD "", v) :: members) (readable && name.isSome) none :: rest,
      .commaOrClose, none⟩

/-- The value of a word: a literal or a number. -/
def ofWord? (cs : List Char) : Option Value :=
  if cs = "null".toList then some .null
  else if cs = "true".toList then some (.bool true)
  else if cs = "false".toList then some (.bool false)
  else (Numeral.ofChars? cs).map fun n =>
    match n.value? with
    | some v => .number v
    | none => .void

/-- The start of a value. -/
def begin? (frames : List Frame) (t : Token) : Option Builder :=
  match t with
  | .openBrace => some ⟨.object [] true none :: frames, .nameOrClose, none⟩
  | .openBracket => some ⟨.array [] :: frames, .valueOrClose, none⟩
  | .text (some s) => some (place frames (.string s))
  | .text none => some (place frames .void)
  | .word cs => (ofWord? cs).map (place frames)
  | _ => none

/-- The end of the innermost container. -/
def close? (frames : List Frame) (t : Token) : Option Builder :=
  match frames, t with
  | .array items :: rest, .closeBracket => some (place rest (.array items.reverse))
  | .object members readable _ :: rest, .closeBrace =>
    some (place rest (if readable then .object members.reverse else .void))
  | _, _ => none

/-- The name of a member. -/
def name? (frames : List Frame) (t : Token) : Option Builder :=
  match frames, t with
  | .object members readable _ :: rest, .text s =>
    some ⟨.object members readable s :: rest, .colon, none⟩
  | _, _ => none

/-- Takes in one token. -/
def accept (b : Builder) (t : Token) : Option Builder :=
  match b.expected with
  | .value => begin? b.frames t
  | .valueOrClose => if t = .closeBracket then close? b.frames t else begin? b.frames t
  | .name => name? b.frames t
  | .nameOrClose => if t = .closeBrace then close? b.frames t else name? b.frames t
  | .colon => if t = .colon then some ⟨b.frames, .value, none⟩ else none
  | .commaOrClose =>
    if t = .comma then
      match b.frames with
      | .array _ :: _ => some ⟨b.frames, .value, none⟩
      | .object _ _ _ :: _ => some ⟨b.frames, .name, none⟩
      | [] => none
    else close? b.frames t
  | .nothing => none

end Builder

/-- The value of a sequence of tokens. -/
def Value.ofTokens? (ts : List Token) : Option Value :=
  (ts.foldlM Builder.accept Builder.initial).bind Builder.result

/-- The value of a text, or nothing if the text is malformed. -/
def Value.read? (text : String) : Option Value :=
  (Token.ofChars? text.toList).bind Value.ofTokens?

/-- A pair of escapes that denotes no character. -/
def unpaired : List Char := "\\ud800\\ud800".toList

/-- How many of the leading octets form a character of UTF-8, and the character. -/
def leadingChar? (bs : List UInt8) : Option (Char × Nat) :=
  [1, 2, 3, 4].findSome? fun n =>
    if bs.length < n then none
    else match String.fromUTF8? (ByteArray.mk (bs.take n).toArray) with
      | some s => match s.toList with
        | [c] => some (c, n)
        | _ => none
      | none => none

/-- The characters of octets, with escapes that denote nothing for stray octets. -/
def tolerantChars (bs : List UInt8) : Nat → List Char
  | 0 => []
  | fuel + 1 =>
    match bs with
    | [] => []
    | _ :: rest =>
      match leadingChar? bs with
      | some (c, n) => c :: tolerantChars (bs.drop n) fuel
      | none => unpaired ++ tolerantChars rest fuel

/-- The text of octets, if it can be read at all. -/
def textOfOctets (content : ByteArray) : String :=
  match String.fromUTF8? content with
  | some s => s
  | none => String.ofList (tolerantChars content.toList content.size)

/-- The value of octets, or nothing if they are malformed. -/
def Value.readOctets? (content : ByteArray) : Option Value := Value.read? (textOfOctets content)

end BlueprintControl.Json
