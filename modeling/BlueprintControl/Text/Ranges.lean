/-!
# Tables of characters

A property of characters is kept as a list of inclusive ranges of code points.

## Main definitions

* `Text.inRanges`: whether a code point lies in one of the ranges.
-/
namespace BlueprintControl.Text

/-- Whether a number lies in one of the inclusive ranges. -/
def inRanges (n : Nat) (ranges : List (Nat × Nat)) : Bool :=
  ranges.any fun r => r.1 ≤ n && n ≤ r.2

end BlueprintControl.Text
