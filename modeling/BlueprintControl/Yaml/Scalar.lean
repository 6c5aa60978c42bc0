import BlueprintControl.Yaml.Gap

/-!
# Scalars

Plain scalars end where an indicator could stand, quoted ones at their quote, and block scalars
where the indentation ends.

## Main definitions

* `plain?`: a plain scalar, and whether it ends behind a line break.
* `quoted?`: a scalar between single or double quotes.
* `block?`: a literal or folded block.
-/
namespace BlueprintControl.Yaml

/-! ## Plain scalars -/

/-- One word of a plain scalar, its last character first. Inside brackets a colon may not stand in
front of a bracket, a comma or a question mark. -/
def plainWord? (inFlow : Bool) (acc : List Char) : List Char → Option (List Char)
  | [] => some acc
  | x :: rest =>
    if isGap x then some acc
    else if inFlow && x == ':' && (match rest with
        | y :: _ => ",?[]\x7b\x7d".toList.contains y
        | [] => false) then none
    else if (x == ':' && atGap rest) || (inFlow && ",[]\x7b\x7d".toList.contains x) then some acc
    else plainWord? inFlow (x :: acc) rest

/-- The words of a plain scalar, latest first, given the gap in front of the next one. Also tells
whether the last gap had a line break. -/
def plainFrom? (inFlow : Bool) (margin : Nat) :
    Nat → Gap → List (List Char) → Cursor → Option (List (List Char) × Bool × Cursor)
  | 0, _, _, _ => none
  | fuel + 1, gap, acc, c =>
    if c.startsDocument || c.sees '#' then some (acc, gap.broken, c)
    else do
      let word ← plainWord? inFlow [] c.rest
      let c := c.skipMany word.length
      let (acc, broken) :=
        if word.isEmpty then (acc, gap.broken) else (word.reverse :: gap.text :: acc, false)
      match c.next? with
      | none => return (acc, broken, c)
      | some x =>
        if !isGap x then return (acc, broken, c)
        let (gap, c) ← Gap.read? margin .empty c
        if !inFlow && c.column < margin then return (acc, gap.broken, c)
        plainFrom? inFlow margin fuel gap acc c

/-- A plain scalar, and whether it ends behind a line break. -/
def plain? (inFlow : Bool) (margin : Nat) (c : Cursor) : Option (List Char × Bool × Cursor) := do
  let (words, broken, c) ← plainFrom? inFlow margin (c.rest.length + 1) .empty [] c
  return (words.reverse.flatten, broken, c)

/-! ## Quoted scalars -/

/-- The value of a hexadecimal digit. -/
def hexDigit? (c : Char) : Option Nat :=
  if '0' ≤ c ∧ c ≤ '9' then some (c.toNat - 48)
  else if 'a' ≤ c ∧ c ≤ 'f' then some (c.toNat - 87)
  else if 'A' ≤ c ∧ c ≤ 'F' then some (c.toNat - 55)
  else none

/-- The number with exactly these many hexadecimal digits. -/
def hexNumber? (acc : Nat) : Nat → List Char → Option Nat
  | 0, _ => some acc
  | _ + 1, [] => none
  | n + 1, x :: rest => do
    let d ← hexDigit? x
    hexNumber? (acc * 16 + d) n rest

/-- The character with a given number. -/
def charOf? (n : Nat) : Option Char :=
  if h : n.isValidChar then some (Char.ofNatAux n h) else none

/-- What an escape of one letter stands for. -/
def escapes : List (Char × Char) :=
  [('0', '\x00'), ('a', '\x07'), ('b', '\x08'), ('t', '\t'), ('\t', '\t'), ('n', '\n'),
    ('v', '\x0b'), ('f', '\x0c'), ('r', '\r'), ('e', '\x1b'), (' ', ' '), ('"', '"'),
    ('/', '/'), ('\\', '\\'), ('N', '\u0085'), ('_', '\u00a0'), ('L', '\u2028'), ('P', '\u2029')]

/-- The character an escape stands for, and the length of the escape behind the backslash. -/
def escape? : List Char → Option (Char × Nat)
  | [] => none
  | x :: rest =>
    let digits := if x = 'x' then 2 else if x = 'u' then 4 else if x = 'U' then 8 else 0
    if digits = 0 then (escapes.lookup x).map fun c => (c, 1)
    else do
      let c ← charOf? (← hexNumber? 0 digits rest)
      return (c, digits + 1)

/-- The text up to the closing quote, given what has been read, last character first. -/
def quotedFrom? (quote : Char) : Nat → List Char → Cursor → Option (List Char × Cursor)
  | 0, _, _ => none
  | fuel + 1, acc, c =>
    match c.rest with
    | [] => none
    | x :: rest =>
      if isGap x then do
        let (gap, c) ← Gap.read? 0 .empty c
        if c.startsDocument then none
        else quotedFrom? quote fuel (gap.text.reverse ++ acc) c
      else if x = quote then
        if quote = '\'' ∧ rest.head? = some '\'' then
          quotedFrom? quote fuel ('\'' :: acc) (c.skipMany 2)
        else some (acc.reverse, c.skip)
      else if quote = '"' ∧ x = '\\' then
        if rest.head?.any isBreak then do
          let (gap, c) ← Gap.read? 0 .joined c.skip.skipBreak
          if c.startsDocument then none
          else quotedFrom? quote fuel (gap.text.reverse ++ acc) c
        else do
          let (y, n) ← escape? rest
          quotedFrom? quote fuel (y :: acc) (c.skipMany (n + 1))
      else quotedFrom? quote fuel (x :: acc) c.skip

/-- A scalar that begins with a quote. -/
def quoted? (quote : Char) (c : Cursor) : Option (List Char × Cursor) :=
  quotedFrom? quote (c.rest.length + 1) [] c.skip

/-! ## Block scalars -/

/-- Which line breaks at the end of a block are kept. -/
inductive Chomp where
  | strip
  | clip
  | keep
  deriving DecidableEq, Repr

/-- The indentation written in a header; it is not zero. -/
def blockIndent? (c : Cursor) : Option (Option Nat × Cursor) :=
  match c.next? with
  | some x =>
    if x = '0' then none
    else if isDigit x then some (some (x.toNat - 48), c.skip)
    else some (none, c)
  | none => some (none, c)

/-- What the header says on line breaks at the end. -/
def blockChomp (c : Cursor) : Option Chomp × Cursor :=
  if c.sees '+' then (some .keep, c.skip)
  else if c.sees '-' then (some .strip, c.skip)
  else (none, c)

/-- The header of a block up to its line break. -/
def blockHeader? (c : Cursor) : Option (Chomp × Option Nat × Cursor) := do
  let (chomp, c) := blockChomp c
  let (indent, c) ← blockIndent? c
  let (chomp, c) := if chomp.isNone && indent.isSome then blockChomp c else (chomp, c)
  let c := c.skipSpaces
  let c := if c.sees '#' then c.skipLine else c
  if atBreak c.rest then return (chomp.getD .clip, indent, c.skipBreak) else none

/-- Empty lines in front of a line with text; `deepest` is the deepest indentation seen. A tab
that stands for indentation is refused. -/
def blockBreaks? (indent : Option Nat) :
    Nat → Nat → List (List Char) → Cursor → Option (Nat × List Char × Cursor)
  | 0, _, _, _ => none
  | fuel + 1, deepest, acc, c =>
    let room : Nat := match indent with
      | some n => n - c.column
      | none => c.rest.length
    let c := c.skipMany ((c.rest.take room).takeWhile (· == ' ')).length
    let deepest := max deepest c.column
    let short := match indent with
      | some n => decide (c.column < n)
      | none => true
    if short && c.sees '\t' then none
    else match c.next? with
      | some x =>
        if isBreak x then
          let (b, c) := c.readBreak
          blockBreaks? indent fuel deepest (b :: acc) c
        else some (deepest, acc.reverse.flatten, c)
      | none => some (deepest, acc.reverse.flatten, c)

/-- What is known of a block while its lines are read. -/
structure Lines where
  /-- The text so far, latest piece first. -/
  pieces : List (List Char)
  /-- The line break of the last line. -/
  lead : List Char
  /-- The empty lines after it. -/
  trail : List Char
  /-- Whether the last line begins with a space or a tab. -/
  spaced : Bool

/-- The lines of a block with known indentation. -/
def blockLines? (folded : Bool) (indent : Nat) : Nat → Lines → Cursor → Option (Lines × Cursor)
  | 0, _, _ => none
  | fuel + 1, l, c =>
    if c.column = indent && !c.rest.isEmpty then do
      let spaced := c.rest.head?.any isSpace
      let joint :=
        if folded && l.lead.head? == some '\n' && !l.spaced && !spaced then fold l.lead l.trail
        else l.lead ++ l.trail
      let (line, c) := c.takeWhile fun x => !isBreak x
      let (lead, c) := c.readBreak
      let (_, trail, c) ← blockBreaks? (some indent) (c.rest.length + 1) 0 [] c
      blockLines? folded indent fuel ⟨line :: joint :: l.pieces, lead, trail, spaced⟩ c
    else some (l, c)

/-- A block scalar that begins with its indicator, inside a block with a given indentation. -/
def block? (folded : Bool) (outer : Int) (c : Cursor) : Option (List Char × Cursor) := do
  let (chomp, written, c) ← blockHeader? c.skip
  let given := written.map fun n => if 0 ≤ outer then outer.toNat + n else n
  let (deepest, trail, c) ← blockBreaks? given (c.rest.length + 1) 0 [] c
  let indent := given.getD (max 1 (max deepest (outer + 1).toNat))
  let (l, c) ← blockLines? folded indent (c.rest.length + 1) ⟨[], [], trail, false⟩ c
  let tail := match chomp with
    | .strip => []
    | .clip => l.lead
    | .keep => l.lead ++ l.trail
  return (l.pieces.reverse.flatten ++ tail, c)

end BlueprintControl.Yaml
