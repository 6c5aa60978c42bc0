import BlueprintControl.Uuid
import BlueprintControl.Json.Number

/-!
# JSON tokens

The text is taken in one character at a time. A `Scanner` remembers what the last characters
began; feeding it a character either moves it on or refuses the text.

## Main definitions

* `Json.Token`: punctuation, strings and words.
* `Json.Scanner.feed`: one step.
* `Json.Token.ofChars?`: all tokens of a text.
-/
namespace BlueprintControl.Json

/-- A token. A string is absent if it holds an unpaired surrogate; a word is a run of letters,
digits, signs and points. -/
inductive Token where
  | openBrace
  | closeBrace
  | openBracket
  | closeBracket
  | colon
  | comma
  | text (s : Option String)
  | word (cs : List Char)
  deriving DecidableEq, Repr

/-- Where a scanner stands inside a string. -/
inductive Escape where
  | none
  /-- Behind a backslash. -/
  | begun
  /-- Inside four hexadecimal digits, with those seen so far. -/
  | hex (seen value : Nat)
  deriving DecidableEq, Repr

/-- The part of a string that has been read, last character first. -/
structure Partial where
  chars : List Char
  /-- A high surrogate that waits for its partner. -/
  high : Option Nat
  /-- No unpaired surrogate so far. -/
  paired : Bool
  deriving DecidableEq, Repr

namespace Partial

/-- The empty string. -/
def empty : Partial := ⟨[], none, true⟩

/-- Appends a character. -/
def push (p : Partial) (c : Char) : Partial :=
  ⟨c :: p.chars, none, p.paired && p.high.isNone⟩

/-- Appends a unit written in hexadecimal. -/
def pushUnit (p : Partial) (n : Nat) : Partial :=
  match p.high with
  | some h =>
    if 0xDC00 ≤ n ∧ n < 0xE000 then
      ⟨Char.ofNat ((h - 0xD800) * 1024 + (n - 0xDC00) + 0x10000) :: p.chars, none, p.paired⟩
    else ⟨p.chars, none, false⟩
  | none =>
    if 0xD800 ≤ n ∧ n < 0xDC00 then { p with high := some n }
    else if 0xDC00 ≤ n ∧ n < 0xE000 then { p with paired := false }
    else p.push (Char.ofNat n)

/-- The finished string, if all its surrogates are paired. -/
def finish (p : Partial) : Option String :=
  if p.paired && p.high.isNone then some (String.ofList p.chars.reverse) else none

end Partial

/-- What the last characters began. -/
inductive Mode where
  | between
  | word (seen : List Char)
  | text (read : Partial) (escape : Escape)
  deriving DecidableEq, Repr

/-- The tokens so far, last one first, and what has begun. -/
structure Scanner where
  tokens : List Token
  mode : Mode
  deriving DecidableEq, Repr

namespace Scanner

/-- Before the first character. -/
def initial : Scanner := ⟨[], .between⟩

/-- Whether a character may be part of a word. -/
def isWordChar (c : Char) : Bool :=
  Numeral.isDigit c || ('a' ≤ c && c ≤ 'z') || ('A' ≤ c && c ≤ 'Z') ||
    c == '+' || c == '-' || c == '.'

/-- The token of a punctuation character. -/
def punctuation? (c : Char) : Option Token :=
  if c = '\x7b' then some .openBrace
  else if c = '\x7d' then some .closeBrace
  else if c = '[' then some .openBracket
  else if c = ']' then some .closeBracket
  else if c = ':' then some .colon
  else if c = ',' then some .comma
  else none

/-- Whether a character separates tokens. -/
def isSpace (c : Char) : Bool := c == ' ' || c == '\n' || c == '\t' || c == '\r'

/-- A character between tokens. -/
def feedBetween (tokens : List Token) (c : Char) : Option Scanner :=
  if isSpace c then some ⟨tokens, .between⟩
  else if c = '"' then some ⟨tokens, .text .empty .none⟩
  else if isWordChar c then some ⟨tokens, .word [c]⟩
  else (punctuation? c).map fun t => ⟨t :: tokens, .between⟩

/-- The character that a one-letter escape stands for. -/
def escaped? (c : Char) : Option Char :=
  if c = '"' then some '"'
  else if c = '\\' then some '\\'
  else if c = '/' then some '/'
  else if c = 'b' then some '\x08'
  else if c = 'f' then some '\x0c'
  else if c = 'n' then some '\n'
  else if c = 'r' then some '\r'
  else if c = 't' then some '\t'
  else none

/-- A character inside a string. -/
def feedText (tokens : List Token) (read : Partial) (escape : Escape) (c : Char) :
    Option Scanner :=
  match escape with
  | .none =>
    if c = '"' then some ⟨.text read.finish :: tokens, .between⟩
    else if c = '\\' then some ⟨tokens, .text read .begun⟩
    else if c.toNat < 32 then none
    else some ⟨tokens, .text (read.push c) .none⟩
  | .begun =>
    if c = 'u' then some ⟨tokens, .text read (.hex 0 0)⟩
    else (escaped? c).map fun d => ⟨tokens, .text (read.push d) .none⟩
  | .hex seen value =>
    (hexValue? c).map fun d =>
      let value := value * 16 + d.val
      if seen = 3 then ⟨tokens, .text (read.pushUnit value) .none⟩
      else ⟨tokens, .text read (.hex (seen + 1) value)⟩

/-- Takes in one character. -/
def feed (s : Scanner) (c : Char) : Option Scanner :=
  match s.mode with
  | .between => feedBetween s.tokens c
  | .word seen =>
    if isWordChar c then some ⟨s.tokens, .word (c :: seen)⟩
    else feedBetween (.word seen.reverse :: s.tokens) c
  | .text read escape => feedText s.tokens read escape c

/-- All tokens, unless a string is still open. -/
def finish (s : Scanner) : Option (List Token) :=
  match s.mode with
  | .between => some s.tokens.reverse
  | .word seen => some (.word seen.reverse :: s.tokens).reverse
  | .text _ _ => none

end Scanner

/-- All tokens of a text, or nothing if it is no sequence of tokens. -/
def Token.ofChars? (cs : List Char) : Option (List Token) :=
  (cs.foldlM Scanner.feed Scanner.initial).bind Scanner.finish

end BlueprintControl.Json
