import BlueprintControl.Yaml.Property

/-!
# From text to tokens

Indentation opens and closes blocks outside of brackets. A scalar or a bracket may turn out to be
a key when a colon follows it on the same line, so each level of brackets remembers the place
where such a key would begin; the tokens of the key are then put in there.

## Main definitions

* `Lexer`: what has been read, and the state of indentation and keys.
* `Lexer.step?`: reads the next token.
* `tokens?`: all tokens of a text, unless it is malformed.
-/
namespace BlueprintControl.Yaml

/-- A place where a key may begin. -/
structure KeySpot where
  /-- Nothing but a key can stand there. -/
  required : Bool
  /-- The number of tokens in front of it. -/
  position : Nat
  line : Nat
  index : Nat
  column : Nat
  deriving Repr

/-- What has been read, and what may come next. -/
structure Lexer where
  cursor : Cursor
  /-- Tokens, latest first. -/
  tokens : List Token
  /-- Column of the innermost block; negative outside of blocks. -/
  indent : Int
  /-- Columns of the enclosing blocks. -/
  indents : List Int
  /-- Where a key may begin on the innermost level of brackets. -/
  spot : Option KeySpot
  /-- The same for the enclosing levels. -/
  outer : List (Option KeySpot)
  /-- Whether a key may begin here. -/
  keyAllowed : Bool

namespace Lexer

/-- Before the first token. -/
def start (cs : List Char) : Lexer := ⟨.start cs, [], -1, [], none, [], true⟩

/-- Whether the place is inside brackets. -/
def inFlow (l : Lexer) : Bool := !l.outer.isEmpty

/-- Adds a token. -/
def push (t : Token) (l : Lexer) : Lexer := { l with tokens := t :: l.tokens }

/-- Adds an indicator of some characters. -/
def pushMark (n : Nat) (t : Token) (l : Lexer) : Lexer :=
  { l with cursor := l.cursor.skipMany n, tokens := t :: l.tokens }

/-- Puts tokens in behind the first ones. -/
def insert (position : Nat) (ts : List Token) (l : Lexer) : Lexer :=
  let later := l.tokens.length - position
  { l with tokens := l.tokens.take later ++ ts.reverse ++ l.tokens.drop later }

/-- Passes spaces, comments and line breaks in front of a token, and a byte order mark at the
beginning of a line. -/
def skipGaps : Nat → Lexer → Lexer
  | 0, l => l
  | fuel + 1, l =>
    let c := if l.cursor.column = 0 && l.cursor.sees '\ufeff' then l.cursor.skip else l.cursor
    let c := c.skipWhile fun x => x == ' ' || (x == '\t' && (l.inFlow || !l.keyAllowed))
    let c := if c.sees '#' then c.skipLine else c
    if c.next?.any isBreak then
      skipGaps fuel { l with cursor := c.skipBreak, keyAllowed := l.keyAllowed || !l.inFlow }
    else { l with cursor := c }

/-- Whether a key that would begin there can still be one: it must end on its line and be
short. -/
def isStale (c : Cursor) (k : KeySpot) : Bool := k.line < c.line || k.index + 1024 < c.index

/-- Forgets a place that is no longer good for a key. -/
def refresh? (c : Cursor) : Option KeySpot → Option (Option KeySpot)
  | none => some none
  | some k =>
    if isStale c k then (if k.required then none else some none) else some (some k)

/-- Forgets all places that are no longer good for a key. -/
def refreshSpots? (l : Lexer) : Option Lexer := do
  let spot ← refresh? l.cursor l.spot
  let outer ← l.outer.mapM (refresh? l.cursor)
  return { l with spot := spot, outer := outer }

/-- Decides that no key begins at the remembered place. -/
def dropSpot? (l : Lexer) : Option Lexer :=
  match l.spot with
  | some k => if k.required then none else some { l with spot := none }
  | none => some l

/-- Remembers this place, if a key may begin here. -/
def saveSpot? (l : Lexer) : Option Lexer :=
  if l.keyAllowed then do
    let c := l.cursor
    let k : KeySpot :=
      ⟨!l.inFlow && l.indent == c.column, l.tokens.length, c.line, c.index, c.column⟩
    let l ← l.dropSpot?
    return { l with spot := some k }
  else some l

/-- Closes the blocks that are indented deeper than a column. -/
def closeBlocks (column : Int) (l : Lexer) : Lexer :=
  if l.inFlow then l
  else
    let deeper := (l.indent :: l.indents).takeWhile (column < ·)
    match (l.indent :: l.indents).dropWhile (column < ·) with
    | i :: is => { l with
        indent := i
        indents := is
        tokens := List.replicate deeper.length .blockEnd ++ l.tokens }
    | [] => l

/-- Opens a block at a column, unless one is open there. -/
def openBlock (column : Nat) (position : Nat) (t : Token) (l : Lexer) : Lexer :=
  if l.inFlow || column ≤ l.indent then l
  else { l.insert position [t] with indent := column, indents := l.indent :: l.indents }

/-- Opens a block at this place, for an indicator that begins an entry. -/
def openHere? (t : Token) (l : Lexer) : Option Lexer :=
  if l.inFlow then some l
  else if l.keyAllowed then some (l.openBlock l.cursor.column l.tokens.length t)
  else none

/-! ## Single tokens -/

/-- The end of the text: everything is closed. -/
def finish? (l : Lexer) : Option Lexer := do
  let l ← (l.closeBlocks (-1)).dropSpot?
  return l.push .streamEnd

/-- A directive. -/
def readDirective? (l : Lexer) : Option Lexer := do
  let l ← (l.closeBlocks (-1)).dropSpot?
  let (t, c) ← directive? l.cursor
  return { l with cursor := c, tokens := t :: l.tokens, keyAllowed := false }

/-- A border between documents. -/
def readBorder? (t : Token) (l : Lexer) : Option Lexer := do
  let l ← (l.closeBlocks (-1)).dropSpot?
  return { l.pushMark 3 t with keyAllowed := false }

/-- An opening bracket. -/
def openFlow? (t : Token) (l : Lexer) : Option Lexer := do
  let l ← l.saveSpot?
  let l := l.pushMark 1 t
  return { l with outer := l.spot :: l.outer, spot := none, keyAllowed := true }

/-- A closing bracket. -/
def closeFlow? (t : Token) (l : Lexer) : Option Lexer := do
  let l ← l.dropSpot?
  let l := { l.pushMark 1 t with keyAllowed := false }
  match l.outer with
  | spot :: outer => return { l with spot := spot, outer := outer }
  | [] => return l

/-- A comma. -/
def readFlowEntry? (l : Lexer) : Option Lexer := do
  let l ← l.dropSpot?
  return { l.pushMark 1 .flowEntry with keyAllowed := true }

/-- A dash in front of an item. -/
def readBlockEntry? (l : Lexer) : Option Lexer := do
  let l ← (← l.openHere? .blockSequence).dropSpot?
  return { l.pushMark 1 .blockEntry with keyAllowed := true }

/-- A question mark in front of a key. -/
def readKey? (l : Lexer) : Option Lexer := do
  let l ← (← l.openHere? .blockMapping).dropSpot?
  return { l.pushMark 1 .key with keyAllowed := !l.inFlow }

/-- A colon. -/
def readValue? (l : Lexer) : Option Lexer :=
  match l.spot with
  | some k =>
    let l := l.insert k.position [.key]
    let l := l.openBlock k.column k.position .blockMapping
    some { l.pushMark 1 .value with spot := none, keyAllowed := false }
  | none => do
    let l ← l.openHere? .blockMapping
    return { l.pushMark 1 .value with keyAllowed := !l.inFlow }

/-- An anchor or an alias. -/
def readAnchor? (make : List Char → Token) (l : Lexer) : Option Lexer := do
  let l ← l.saveSpot?
  let (name, c) ← anchorName? l.cursor
  return { l with cursor := c, tokens := make name :: l.tokens, keyAllowed := false }

/-- A tag. -/
def readTag? (l : Lexer) : Option Lexer := do
  let l ← l.saveSpot?
  let (t, c) ← tagName? l.inFlow l.cursor
  return { l with cursor := c, tokens := .tag t :: l.tokens, keyAllowed := false }

/-- A block scalar. -/
def readBlock? (style : Style) (l : Lexer) : Option Lexer := do
  let l ← l.dropSpot?
  let (text, c) ← block? (style == .folded) l.indent l.cursor
  return { l with cursor := c, tokens := .scalar style text :: l.tokens, keyAllowed := true }

/-- A quoted scalar. -/
def readQuoted? (quote : Char) (l : Lexer) : Option Lexer := do
  let l ← l.saveSpot?
  let (text, c) ← quoted? quote l.cursor
  return { l with cursor := c, tokens := .scalar .quoted text :: l.tokens, keyAllowed := false }

/-- A plain scalar. -/
def readPlain? (l : Lexer) : Option Lexer := do
  let l ← l.saveSpot?
  let (text, broken, c) ← plain? l.inFlow (l.indent + 1).toNat l.cursor
  return { l with cursor := c, tokens := .scalar .plain text :: l.tokens, keyAllowed := broken }

/-- The characters that begin no plain scalar. -/
def indicators : List Char := "-?:,[]\x7b\x7d#&*!|>'\"%@\x60".toList

/-- The token that begins with a character. -/
def readAt? (x : Char) (rest : List Char) (l : Lexer) : Option Lexer :=
  let c := l.cursor
  let flow := l.inFlow
  if c.column = 0 && x == '%' then l.readDirective?
  else if c.isMark '-' then l.readBorder? .documentStart
  else if c.isMark '.' then l.readBorder? .documentEnd
  else if x = '[' then l.openFlow? .flowSequence
  else if x = '\x7b' then l.openFlow? .flowMapping
  else if x = ']' then l.closeFlow? .flowSequenceEnd
  else if x = '\x7d' then l.closeFlow? .flowMappingEnd
  else if x = ',' then l.readFlowEntry?
  else if x = '-' && atGap rest then l.readBlockEntry?
  else if x = '?' && (flow || atGap rest) then l.readKey?
  else if x = ':' && (flow || atGap rest) then l.readValue?
  else if x = '*' then l.readAnchor? .alias
  else if x = '&' then l.readAnchor? .anchor
  else if x = '!' then l.readTag?
  else if x = '|' && !flow then l.readBlock? .literal
  else if x = '>' && !flow then l.readBlock? .folded
  else if x = '\'' || x = '"' then l.readQuoted? x
  else if !(isGap x || indicators.contains x) || x = '-' || (!flow && (x = '?' || x = ':')) then
    l.readPlain?
  else none

/-- Reads the next token, or closes everything at the end of the text. The flag tells whether
there may be more. -/
def step? (l : Lexer) : Option (Bool × Lexer) := do
  let l ← (l.skipGaps (l.cursor.rest.length + 1)).refreshSpots?
  let l := l.closeBlocks l.cursor.column
  match l.cursor.rest with
  | [] => return (false, ← l.finish?)
  | x :: rest => return (true, ← l.readAt? x rest)

/-- Reads all tokens. -/
def run? : Nat → Lexer → Option (List Token)
  | 0, _ => none
  | fuel + 1, l => do
    let (more, l) ← l.step?
    if more then run? fuel l else return l.tokens.reverse

end Lexer

/-- The tokens of a text, unless it is malformed. -/
def tokens? (cs : List Char) : Option (List Token) :=
  if cs.all isAllowed then (Lexer.start cs).run? (cs.length + 1) else none

end BlueprintControl.Yaml
