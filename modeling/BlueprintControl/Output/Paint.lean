/-!
# Colours

Texts on a terminal are painted by escape sequences, if colours are wanted.

## Main definitions

* `Paint`: the ways to paint a text.
* `Paint.apply`: a painted text.
-/
namespace BlueprintControl

/-- A way to paint a text. -/
inductive Paint where
  | bold
  | dimmed
  | red
  | green
  | yellow
  | cyan
  deriving DecidableEq, Repr

namespace Paint

/-- The number of a paint in an escape sequence. -/
def code : Paint → String
  | .bold => "1"
  | .dimmed => "2"
  | .red => "31"
  | .green => "32"
  | .yellow => "33"
  | .cyan => "36"

/-- The sequence with that number. -/
def sequence (code : String) : List Char := '\x1b' :: '[' :: code.toList ++ ['m']

/-- The sequence that ends all painting. -/
def stop : List Char := sequence "0"

/-- Puts a start behind every end of painting in a text; `skip` characters belong to an end that
has been seen already. -/
def resume (start : List Char) : List Char → Nat → List Char
  | [], _ => []
  | c :: rest, 0 =>
    if stop.isPrefixOf (c :: rest) then c :: resume start rest (stop.length - 1)
    else c :: resume start rest 0
  | c :: rest, 1 => c :: start ++ resume start rest 0
  | c :: rest, skip + 2 => c :: resume start rest (skip + 1)

/-- Paints a text. Painting goes on behind an end of painting inside the text. -/
def apply (p : Paint) (colored : Bool) (text : String) : String :=
  if colored then
    let start := sequence p.code
    String.ofList (start ++ resume start text.toList 0 ++ stop)
  else text

@[simp] theorem apply_plain (p : Paint) (text : String) : p.apply false text = text := rfl

end Paint
end BlueprintControl
