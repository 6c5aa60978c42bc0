import BlueprintControl.Text.Printable
import BlueprintControl.Text.WidthTable

/-!
# The width of a text on a terminal

The number of columns that a line of text takes. Most characters take one column, those of East
Asian scripts and emoji take two, marks and joiners take none. Some sequences are drawn as one
sign: emoji that are joined or followed by a skin tone or a selector, and a few pairs of letters.

The text is read from its end, because what follows a character decides how it is drawn.

## Main definitions

* `Text.charWidth`: the columns of a character on its own.
* `Text.Behind`: what follows a character.
* `Text.widthBefore`: the columns of a character, given what follows.
* `Text.width`: the columns of a text.
-/
namespace BlueprintControl.Text

/-- Whether a character takes no column. -/
def isInvisible (c : Char) : Bool :=
  c.toNat != 0x2D7F && c.toNat != 0x115F
    && (isGraphemeExtender c || inRanges c.toNat invisibleRanges)

/-- The columns of a character on its own. -/
def charWidth (c : Char) : Int :=
  if c.toNat ≤ 0xA0 then 1
  else if isInvisible c then 0
  else if inRanges c.toNat wideRanges then 2
  else 1

/-- Whether a character can be followed by a selector. -/
def isSelectable (c : Char) : Bool := inRanges c.toNat selectableRanges

/-- Whether a character is a picture by itself. -/
def isEmoji (c : Char) : Bool := inRanges c.toNat emojiRanges

/-- Whether a selector can turn a picture back into text of one column. -/
def isTextSelectable (c : Char) : Bool :=
  isSelectable c && isEmoji c && !(0x1F200 ≤ c.toNat && c.toNat ≤ 0x1F2FF)

/-- Letters that are drawn together with what stands in front of them. -/
inductive Joining where
  | alef
  | lamed (joined : Bool)
  | ya (joined : Bool)
  /-- The vowel in front of a joined ya. -/
  | vowelOfYa
  | consonant (joined : Bool)
  /-- The joiner in front of a consonant. -/
  | consonantJoiner
  | toneMark
  | orkhonI (joined : Bool)
  /-- A letter that can stand below the letter in front. -/
  | subscript
  deriving DecidableEq

/-- What follows a character, as far as it matters for its width. -/
inductive Behind where
  | other
  | lineFeed
  | skinTone
  | emoji
  /-- A joiner that is followed by an emoji. -/
  | joinedEmoji
  /-- The sign of a key, followed by a joiner and an emoji. -/
  | joinedKey
  | letter (j : Joining)
  deriving DecidableEq

/-- How a selector wants a character to be drawn. -/
inductive Selector where
  | asText
  | asEmoji
  deriving DecidableEq

/-- What follows a character, behind a selector if there is one. -/
structure Following where
  behind : Behind
  selector : Option Selector
  deriving DecidableEq

namespace Following

/-- Nothing that matters. -/
def nothing : Following := ⟨.other, none⟩

/-- Something that is not behind a selector. -/
def plain (b : Behind) : Following := ⟨b, none⟩

/-- Puts a selector in front. Only letters, and emoji that are joined, stay in sight. -/
def select (f : Following) (s : Selector) : Following :=
  match f.behind, s with
  | .letter _, _ | .joinedEmoji, .asEmoji | .joinedKey, .asEmoji => { f with selector := some s }
  | _, _ => ⟨.other, some s⟩

/-- Takes a selector away that the character in front does not heed. -/
def unselect (f : Following) : Following :=
  match f.behind with
  | .letter _ => { f with selector := none }
  | _ => nothing

end Following

/-- Whether a character is a consonant that can be joined with another. -/
def isJoiningConsonant (n : Nat) : Bool := (0x2D31 ≤ n && n ≤ 0x2D65) || n == 0x2D6F

/-- The letters that can stand below the letter in front. -/
def subscriptRanges : List (Nat × Nat) :=
  [(0x1780, 0x1782), (0x1784, 0x1787), (0x1789, 0x178C), (0x178E, 0x1793), (0x1795, 0x1798),
    (0x179B, 0x179D), (0x17A0, 0x17A0), (0x17A2, 0x17A2), (0x17A7, 0x17A7), (0x17AB, 0x17AC),
    (0x17AF, 0x17AF)]

/-- The letters that join with a lam in front. -/
def alefRanges : List (Nat × Nat) :=
  [(0x622, 0x623), (0x625, 0x625), (0x627, 0x627), (0x671, 0x673), (0x675, 0x675),
    (0x773, 0x774), (0x870, 0x882)]

/-- The letters that join with an alef behind. -/
def lamRanges : List (Nat × Nat) :=
  [(0x644, 0x644), (0x6B5, 0x6B8), (0x76A, 0x76A), (0x8A6, 0x8A6), (0x8C7, 0x8C7)]

/-- What a character is for the character in front of it. -/
def behindOf (c : Char) : Behind :=
  let n := c.toNat
  if 0x1F3FB ≤ n && n ≤ 0x1F3FF then .skinTone
  else if isEmoji c then .emoji
  else if n == 0x5DC then .letter (.lamed false)
  else if n == 0x1A10 then .letter (.ya false)
  else if isJoiningConsonant n then .letter (.consonant false)
  else if 0xA4FC ≤ n && n ≤ 0xA4FD then .letter .toneMark
  else if n == 0x10C03 then .letter (.orkhonI false)
  else if inRanges n subscriptRanges then .letter .subscript
  else if inRanges n alefRanges then .letter .alef
  else .other

/-- Whether a letter still joins across a character: a mark that is ignored by default. -/
def isIgnoredMark (n : Nat) : Bool :=
  n == 0x34F || n == 0x17B4 || n == 0x17B5 || (0x180B ≤ n && n ≤ 0x180F && n != 0x180E)
    || n == 0x200C || (0xFE00 ≤ n && n ≤ 0xFE0F) || (0xE0100 ≤ n && n ≤ 0xE01EF)

/-- The letter behind a joiner. -/
def Joining.join : Joining → Joining
  | .lamed _ => .lamed true
  | .ya _ => .ya true
  | .consonant _ => .consonant true
  | .orkhonI _ => .orkhonI true
  | j => j

/-- The columns of a character that is drawn together with the letter behind it. -/
def widthBeforeLetter (c : Char) (j : Joining) : Option (Int × Behind) :=
  let n := c.toNat
  if j = .alef then
    if inRanges n lamRanges then some (0, .other)
    else if isGraphemeExtender c && n != 0x200C then some (0, .letter .alef)
    else none
  else if n == 0x200D then some (0, .letter j.join)
  else if isIgnoredMark n then some (0, .letter j)
  else match j with
    | .lamed true => if n == 0x5D0 then some (0, .other) else none
    | .subscript => if n == 0x17D2 then some (-1, .other) else none
    | .ya true => if n == 0x1A17 then some (0, .letter .vowelOfYa) else none
    | .vowelOfYa => if n == 0x1A15 then some (0, .other) else none
    | .consonant joined =>
      if n == 0x2D7F then some (1, .letter .consonantJoiner)
      else if joined && isJoiningConsonant n then some (0, .other)
      else none
    | .consonantJoiner => if isJoiningConsonant n then some (-1, .other) else none
    | .toneMark => if 0xA4F8 ≤ n && n ≤ 0xA4FB then some (0, .other) else none
    | .orkhonI true => if n == 0x10C32 then some (0, .other) else none
    | _ => none

/-- The columns of a character that is drawn together with what follows it. -/
def widthBeforeEmoji (c : Char) (b : Behind) : Option (Int × Behind) :=
  let n := c.toNat
  match b with
  | .letter j => widthBeforeLetter c j
  | .skinTone =>
    if inRanges n modifiableRanges then some (0, .emoji)
    else if n == 0x200D then some (0, .joinedEmoji)
    else none
  | .emoji => if n == 0x200D then some (0, .joinedEmoji) else none
  | .joinedEmoji =>
    if n == 0x20E3 then some (0, .joinedKey)
    else if 0x1F3FB ≤ n && n ≤ 0x1F3FF then some (0, .skinTone)
    else if isEmoji c then some (0, .emoji)
    else none
  | _ => none

/-- The columns of a character behind `U+00A0`, given what follows it. -/
def widthBeforeUnselected (c : Char) (f : Following) : Int × Following :=
  match widthBeforeEmoji c f.behind with
  | some (w, b) => (w, .plain b)
  | none => (charWidth c, .plain (behindOf c))

/-- The columns of a character, given what follows it. -/
def widthBefore (c : Char) (f : Following) : Int × Following :=
  if f.selector = some .asEmoji ∧ isSelectable c then
    (if f.behind = .joinedEmoji ∨ f.behind = .joinedKey then 0 else 2, .plain .emoji)
  else
    let f := if f.selector = some .asEmoji then f.unselect else f
    if c = '\n' then (1, .plain .lineFeed)
    else if c.toNat ≤ 0xA0 then
      (if c = '\r' ∧ f = .plain .lineFeed then 0 else 1, .nothing)
    else if c.toNat == 0xFE0F then (0, f.select .asEmoji)
    else if c.toNat == 0xFE0E then (0, f.select .asText)
    else if f.selector = some .asText then
      if isTextSelectable c then (1, .nothing) else widthBeforeUnselected c f.unselect
    else widthBeforeUnselected c f

/-- The columns of a text. -/
def width (s : String) : Nat :=
  (s.toList.foldr (fun c (sum, f) =>
    let (w, f) := widthBefore c f
    (sum + w, f)) ((0 : Int), Following.nothing)).1.toNat

end BlueprintControl.Text
