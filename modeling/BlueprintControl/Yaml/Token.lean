/-!
# Tokens of a YAML text

The tokens are the indicators of a document, with the borders of blocks that only indentation
shows, and the scalars with what they stand for.
-/
namespace BlueprintControl.Yaml

/-- How a scalar is written. -/
inductive Style where
  | plain
  | quoted
  | literal
  | folded
  deriving DecidableEq, Repr

/-- A tag as written: the handle and the rest. -/
structure TagName where
  handle : List Char
  suffix : List Char
  deriving DecidableEq, Repr

/-- What a text consists of. -/
inductive Token where
  | streamEnd
  | version (major minor : Nat)
  /-- An abbreviation for the beginning of tags. -/
  | abbreviation (handle stem : List Char)
  | documentStart
  | documentEnd
  | blockSequence
  | blockMapping
  | blockEnd
  | flowSequence
  | flowSequenceEnd
  | flowMapping
  | flowMappingEnd
  | blockEntry
  | flowEntry
  | key
  | value
  | alias (name : List Char)
  | anchor (name : List Char)
  | tag (name : TagName)
  | scalar (style : Style) (text : List Char)
  deriving DecidableEq, Repr

end BlueprintControl.Yaml
