import BlueprintControl.Yaml.Lexer

/-!
# Nodes of a YAML document

A document is a tree of scalars, sequences and mappings. A node may have an anchor, and an alias
stands for the node with its anchor. The grammar takes tokens from the front of a list; every
rule of it takes at least one token or ends, so a bound of three steps per token is never reached.

## Main definitions

* `Node`: a tree, with anchors of some type.
* `document?`: the only document of a text; a text may also hold no document at all.
-/
namespace BlueprintControl.Yaml

/-- A scalar without its anchor. -/
structure Scalar where
  tag : Option (List Char)
  style : Style
  text : List Char
  deriving DecidableEq, Repr

/-- A tree whose nodes are marked and referred to by `ι`. -/
inductive Node (ι : Type) where
  | alias (target : ι)
  | scalar (anchor : Option ι) (s : Scalar)
  | sequence (anchor : Option ι) (tag : Option (List Char)) (items : List (Node ι))
  | mapping (anchor : Option ι) (tag : Option (List Char)) (entries : List (Node ι × Node ι))

/-- A node as written: anchors are names. -/
abbrev Written := Node (List Char)

/-- What is written in place of nothing. -/
def Node.nothing : Written := .scalar none ⟨none, .plain, []⟩

/-- The beginnings of tags, by handle. -/
abbrev TagStems := List (List Char × List Char)

/-- The abbreviations that every document has. -/
def standardStems : TagStems :=
  [(['!'], ['!']), (['!', '!'], "tag:yaml.org,2002:".toList)]

/-- A tag without abbreviation. -/
def TagName.resolve? (stems : TagStems) (t : TagName) : Option (List Char) :=
  if t.handle.isEmpty then some t.suffix
  else (stems.lookup t.handle).map fun stem => stem ++ t.suffix

/-- Anchor and tag of a node, in either order. -/
structure Properties where
  anchor : Option (List Char)
  tag : Option (List Char)

/-- Takes the anchor and the tag in front of a node. -/
def properties? (stems : TagStems) (ts : List Token) : Option (Properties × List Token) :=
  match ts with
  | .anchor a :: .tag t :: rest | .tag t :: .anchor a :: rest =>
    (t.resolve? stems).map fun tag => (⟨some a, some tag⟩, rest)
  | .anchor a :: rest => some (⟨some a, none⟩, rest)
  | .tag t :: rest => (t.resolve? stems).map fun tag => (⟨none, some tag⟩, rest)
  | rest => some (⟨none, none⟩, rest)

/-- Whether the tokens begin with one of those after which nothing is written for an item or an
entry. -/
def omitted (ends : List Token) (ts : List Token) : Bool :=
  match ts with
  | t :: _ => ends.contains t
  | [] => false

/-- Nothing may be written behind an anchor or a tag. -/
def bare? (p : Properties) (ts : List Token) : Option (Written × List Token) :=
  if p.anchor.isSome || p.tag.isSome then some (.scalar p.anchor ⟨p.tag, .plain, []⟩, ts)
  else none

/-- Takes the comma in front of an item; there is none before the first, and none is needed at
the end. -/
def comma? (close : Token) (first : Bool) (ts : List Token) : Option (List Token) :=
  if first || omitted [close] ts then some ts
  else match ts with
    | .flowEntry :: rest => some rest
    | _ => none

/-! ## The grammar -/

mutual

/-- A node. In a block it may be a block; behind the indicators of a mapping it may be a sequence
without indentation. -/
def node? (stems : TagStems) (block loose : Bool) :
    Nat → List Token → Option (Written × List Token)
  | 0, _ => none
  | fuel + 1, ts =>
    match ts with
    | .alias name :: rest => some (.alias name, rest)
    | ts => do
      let (p, ts) ← properties? stems ts
      match ts with
      | .blockEntry :: _ =>
        if loose then
          let (items, rest) ← looseItems? stems fuel ts
          return (.sequence p.anchor p.tag items, rest)
        else bare? p ts
      | .scalar style text :: rest =>
        return (.scalar p.anchor ⟨p.tag, style, text⟩, rest)
      | .flowSequence :: rest =>
        let (items, rest) ← flowItems? stems true fuel rest
        return (.sequence p.anchor p.tag items, rest)
      | .flowMapping :: rest =>
        let (entries, rest) ← flowEntries? stems true fuel rest
        return (.mapping p.anchor p.tag entries, rest)
      | .blockSequence :: rest =>
        if block then
          let (items, rest) ← blockItems? stems fuel rest
          return (.sequence p.anchor p.tag items, rest)
        else bare? p ts
      | .blockMapping :: rest =>
        if block then
          let (entries, rest) ← blockEntries? stems fuel rest
          return (.mapping p.anchor p.tag entries, rest)
        else bare? p ts
      | ts => bare? p ts

/-- A node, or nothing in front of some tokens. -/
def part? (stems : TagStems) (block loose : Bool) (ends : List Token) :
    Nat → List Token → Option (Written × List Token)
  | 0, _ => none
  | fuel + 1, ts =>
    if omitted ends ts then some (.nothing, ts) else node? stems block loose fuel ts

/-- The items of an indented sequence. -/
def blockItems? (stems : TagStems) : Nat → List Token → Option (List Written × List Token)
  | 0, _ => none
  | fuel + 1, ts =>
    match ts with
    | .blockEntry :: rest => do
      let (item, rest) ← part? stems true false [.blockEntry, .blockEnd] fuel rest
      let (items, rest) ← blockItems? stems fuel rest
      return (item :: items, rest)
    | .blockEnd :: rest => some ([], rest)
    | _ => none

/-- The items of a sequence without indentation. -/
def looseItems? (stems : TagStems) : Nat → List Token → Option (List Written × List Token)
  | 0, _ => none
  | fuel + 1, ts =>
    match ts with
    | .blockEntry :: rest => do
      let (item, rest) ←
        part? stems true false [.blockEntry, .key, .value, .blockEnd] fuel rest
      let (items, rest) ← looseItems? stems fuel rest
      return (item :: items, rest)
    | rest => some ([], rest)

/-- The entries of an indented mapping. -/
def blockEntries? (stems : TagStems) :
    Nat → List Token → Option (List (Written × Written) × List Token)
  | 0, _ => none
  | fuel + 1, ts =>
    match ts with
    | .key :: rest => do
      let (key, rest) ← part? stems true true [.key, .value, .blockEnd] fuel rest
      let (value, rest) ← match rest with
        | .value :: rest => part? stems true true [.key, .value, .blockEnd] fuel rest
        | rest => some (.nothing, rest)
      let (entries, rest) ← blockEntries? stems fuel rest
      return ((key, value) :: entries, rest)
    | .blockEnd :: rest => some ([], rest)
    | _ => none

/-- The items of a sequence in brackets; an item may be a mapping of one entry. -/
def flowItems? (stems : TagStems) (first : Bool) :
    Nat → List Token → Option (List Written × List Token)
  | 0, _ => none
  | fuel + 1, ts => do
    let ts ← comma? .flowSequenceEnd first ts
    match ts with
    | .flowSequenceEnd :: rest => return ([], rest)
    | .key :: rest =>
      let (entry, rest) ← flowPair? stems fuel rest
      let (items, rest) ← flowItems? stems false fuel rest
      return (.mapping none none [entry] :: items, rest)
    | ts =>
      let (item, rest) ← node? stems false false fuel ts
      let (items, rest) ← flowItems? stems false fuel rest
      return (item :: items, rest)

/-- The single entry of a mapping that is an item in brackets. Where the key is left out, the
token after it is passed over. -/
def flowPair? (stems : TagStems) : Nat → List Token → Option ((Written × Written) × List Token)
  | 0, _ => none
  | fuel + 1, ts => do
    let (key, rest) ←
      if omitted [.value, .flowEntry, .flowSequenceEnd] ts then some (.nothing, ts.drop 1)
      else node? stems false false fuel ts
    match rest with
    | .value :: rest =>
      let (value, rest) ← part? stems false false [.flowEntry, .flowSequenceEnd] fuel rest
      return ((key, value), rest)
    | rest => return ((key, .nothing), rest)

/-- The entries of a mapping in brackets; a node without a colon is a key with nothing. -/
def flowEntries? (stems : TagStems) (first : Bool) :
    Nat → List Token → Option (List (Written × Written) × List Token)
  | 0, _ => none
  | fuel + 1, ts => do
    let ts ← comma? .flowMappingEnd first ts
    match ts with
    | .flowMappingEnd :: rest => return ([], rest)
    | .key :: rest =>
      let (key, rest) ← part? stems false false [.value, .flowEntry, .flowMappingEnd] fuel rest
      let (value, rest) ← match rest with
        | .value :: rest => part? stems false false [.flowEntry, .flowMappingEnd] fuel rest
        | rest => some (.nothing, rest)
      let (entries, rest) ← flowEntries? stems false fuel rest
      return ((key, value) :: entries, rest)
    | ts =>
      let (key, rest) ← node? stems false false fuel ts
      let (entries, rest) ← flowEntries? stems false fuel rest
      return ((key, .nothing) :: entries, rest)

end

/-! ## Documents -/

/-- The directives in front of a document: at most one version, which has to be known, and
abbreviations with different handles. -/
def directives? (versioned : Bool) (stems : TagStems) :
    List Token → Option (TagStems × List Token)
  | .version major minor :: rest =>
    if versioned || major != 1 || !(minor == 1 || minor == 2) then none
    else directives? true stems rest
  | .abbreviation handle stem :: rest =>
    if (stems.lookup handle).isSome then none
    else directives? versioned (stems ++ [(handle, stem)]) rest
  | rest => some (stems ++ standardStems, rest)

/-- Whether a directive comes next. -/
def startsDirective : List Token → Bool
  | .version _ _ :: _ | .abbreviation _ _ :: _ => true
  | _ => false

/-- A document that begins with its mark, after its directives. -/
def markedDocument? (ts : List Token) : Option (Written × List Token) := do
  let (stems, ts) ← directives? false [] ts
  match ts with
  | .documentStart :: rest =>
    if omitted [.documentStart, .documentEnd, .streamEnd] rest || startsDirective rest then
      return (.nothing, rest)
    else node? stems true false (3 * rest.length + 3) rest
  | _ => none

/-- The first document; its mark may be missing if it has no directives. -/
def firstDocument? (ts : List Token) : Option (Written × List Token) :=
  if omitted [.documentStart] ts || startsDirective ts then markedDocument? ts
  else node? standardStems true false (3 * ts.length + 3) ts

/-- The only document of a text, or nothing if the text holds none. -/
def document? (cs : List Char) : Option (Option Written) := do
  match ← tokens? cs with
  | [.streamEnd] => return none
  | ts =>
    let (n, rest) ← firstDocument? ts
    match rest.dropWhile (· == .documentEnd) with
    | [.streamEnd] => return some n
    | _ => none

end BlueprintControl.Yaml
