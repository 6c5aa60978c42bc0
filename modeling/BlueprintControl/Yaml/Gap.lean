import BlueprintControl.Yaml.Cursor

/-!
# Gaps between words

A gap is what separates two words of a scalar. Spaces of one line are kept; a single line break
becomes a space, of several the first is dropped, and the spaces around breaks vanish.

## Main definitions

* `Gap`, `Gap.text`: a gap and what it stands for.
* `Gap.read?`: reads a gap as far as it goes.
-/
namespace BlueprintControl.Yaml

/-- What stands for a first line break and the breaks after it. -/
def fold (lead trail : List Char) : List Char :=
  if lead = ['\n'] then (if trail.isEmpty then [' '] else trail) else lead ++ trail

/-- The spaces and line breaks between two words. -/
structure Gap where
  /-- Spaces and tabs in front of any line break. -/
  spaces : List Char
  /-- Whether there is a line break. -/
  broken : Bool
  /-- The first line break. -/
  lead : List Char
  /-- All further line breaks. -/
  trail : List Char
  deriving Repr

namespace Gap

/-- No gap. -/
def empty : Gap := ⟨[], false, [], []⟩

/-- The gap after a line break that does not count. -/
def joined : Gap := ⟨[], true, [], []⟩

/-- What the gap stands for. -/
def text (g : Gap) : List Char := if g.broken then fold g.lead g.trail else g.spaces

/-- Takes in a line break. -/
def addBreak (g : Gap) (b : List Char) : Gap :=
  if g.broken then { g with trail := g.trail ++ b } else ⟨[], true, b, []⟩

/-- Reads on, given how many steps are left and the column that tabs behind a line break must
reach. -/
def readFrom? (margin : Nat) : Nat → Gap → Cursor → Option (Gap × Cursor)
  | 0, _, _ => none
  | fuel + 1, g, c =>
    match c.next? with
    | none => some (g, c)
    | some x =>
      if isSpace x then
        if g.broken then
          if x = '\t' ∧ c.column < margin then none else readFrom? margin fuel g c.skip
        else readFrom? margin fuel { g with spaces := g.spaces ++ [x] } c.skip
      else if isBreak x then
        let (b, c) := c.readBreak
        readFrom? margin fuel (g.addBreak b) c
      else some (g, c)

/-- Reads a gap that has begun, as far as it goes. A tab that stands for indentation is
refused. -/
def read? (margin : Nat) (g : Gap) (c : Cursor) : Option (Gap × Cursor) :=
  readFrom? margin (c.rest.length + 1) g c

end Gap
end BlueprintControl.Yaml
