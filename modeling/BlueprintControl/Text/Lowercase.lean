import BlueprintControl.Text.CaseTable

/-!
# Lower case

Texts are lowered character by character. The only character whose form depends on its context
is the capital sigma: it becomes a final sigma at the end of a word.

## Main definitions

* `Text.lower`: the lower-case form of a text.
-/
namespace BlueprintControl.Text

/-- Whether a cased character comes next, characters without weight passed over. -/
def meetsCased : List Char → Bool
  | [] => false
  | c :: rest => if isCaseIgnorable c then meetsCased rest else isCased c

/-- Lowers a text, given the characters in front of it, nearest first. -/
def lowerAfter (before : List Char) : List Char → List Char
  | [] => []
  | c :: rest =>
    let form :=
      if c = 'Σ' then
        if meetsCased before && !meetsCased rest then ['ς'] else ['σ']
      else lowerChar c
    form ++ lowerAfter (c :: before) rest

/-- The lower-case form of a text. -/
def lower (s : String) : String := String.ofList (lowerAfter [] s.toList)

end BlueprintControl.Text
