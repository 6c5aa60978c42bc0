import BlueprintControl.Json.Token
import BlueprintControl.Json.Writer

/-!
# The tokens of a written value

The indented layout of a value is read back token by token. Line breaks and indentation leave no
token, a string between quotation marks is one token whatever it holds, and a word ends where
something follows that cannot be part of a word.

## Main definitions

* `Json.Scanner.scan`: the tokens of what is left of a text.
* `Json.Value.tokens`: the tokens of a value, whatever its layout.
* `Json.Value.IsPlain`: values without numbers.

## Main statements

* `Json.Scanner.scan_quoted`: a string is read back as it was.
* `Json.Value.ofChars?_prettyChars`: the tokens of the indented layout.
-/
namespace BlueprintControl.Json

namespace Scanner

/-- The tokens of a text, given what stands in front of it. -/
def scan (s : Scanner) (cs : List Char) : Option (List Token) := (cs.foldlM feed s).bind finish

theorem scan_cons (s : Scanner) (c : Char) (cs : List Char) :
    s.scan (c :: cs) = (s.feed c).bind fun s => s.scan cs := by
  simp only [scan, List.foldlM_cons]
  cases s.feed c <;> rfl

theorem scan_of_feed {s s' : Scanner} {c : Char} (h : s.feed c = some s') (cs : List Char) :
    s.scan (c :: cs) = s'.scan cs := by
  rw [scan_cons, h, Option.bind_some]

variable {tokens : List Token} {rest : List Char}

/-! ## Strings -/

/-- A control character, which is written as its number, is one more character of the string that
has begun. -/
theorem scan_unit {c : Char} (h : c.toNat < 32) (read : List Char) (rest : List Char) :
    scan ⟨tokens, .text ⟨read, none, true⟩ .none⟩
        (['\\', 'u', '0', '0', hexDigit (hexPart (c.toNat / 16)), hexDigit (hexPart c.toNat)]
          ++ rest)
      = scan ⟨tokens, .text ⟨c :: read, none, true⟩ .none⟩ rest := by
  have hzero : hexValue? '0' = some 0 := by decide
  have hnumber : (hexPart (c.toNat / 16)).val * 16 + (hexPart c.toNat).val = c.toNat := by
    simp only [hexPart, Fin.val_ofNat]
    omega
  have hunit : Partial.pushUnit ⟨read, none, true⟩ c.toNat = ⟨c :: read, none, true⟩ := by
    have hhigh : ¬ (0xD800 ≤ c.toNat ∧ c.toNat < 0xDC00) := by omega
    have hlow : ¬ (0xDC00 ≤ c.toNat ∧ c.toNat < 0xE000) := by omega
    simp [Partial.pushUnit, hhigh, hlow, Partial.push, Char.ofNat_toNat]
  simp [scan_cons, feed, feedText, hzero, hnumber, hunit]

/-- An escaped character is one more character of the string that has begun. -/
theorem scan_escape (c : Char) (read : List Char) (rest : List Char) :
    scan ⟨tokens, .text ⟨read, none, true⟩ .none⟩ (escape c ++ rest)
      = scan ⟨tokens, .text ⟨c :: read, none, true⟩ .none⟩ rest := by
  unfold escape
  -- Seven characters have an escape of their own.
  iterate 7
    split
    case isTrue hc =>
      subst hc
      simp [scan_cons, feed, feedText, escaped?, Partial.push]
  split
  case isTrue hcontrol => exact scan_unit hcontrol read rest
  case isFalse hcontrol =>
    rename_i hquote hbackslash _ _ _ _ _
    simp [scan_cons, feed, feedText, hquote, hbackslash, hcontrol, Partial.push]

theorem scan_escapes (cs read : List Char) :
    scan ⟨tokens, .text ⟨read, none, true⟩ .none⟩ (cs.flatMap escape ++ '"' :: rest)
      = scan ⟨.text (some (String.ofList (read.reverse ++ cs))) :: tokens, .between⟩ rest := by
  induction cs generalizing read with
  | nil => simp [scan_cons, feed, feedText, Partial.finish]
  | cons c cs ih => simp [scan_escape, ih]

/-- A string between quotation marks is one token, and the string is the one that was written. -/
theorem scan_quoted (s : String) (rest : List Char) :
    scan ⟨tokens, .between⟩ (quoted s ++ rest)
      = scan ⟨.text (some s) :: tokens, .between⟩ rest := by
  have hopen : feed ⟨tokens, .between⟩ '"' = some ⟨tokens, .text .empty .none⟩ := rfl
  simp only [quoted, List.cons_append, List.append_assoc, scan_of_feed hopen]
  rw [Partial.empty, scan_escapes]
  simp [String.ofList_toList]

/-! ## Words and blanks -/

/-- What follows a word and ends it. -/
def EndsWord (rest : List Char) : Prop := ∀ c ∈ rest.head?, isWordChar c = false

theorem endsWord_cons {c : Char} (h : isWordChar c = false) (rest : List Char) :
    EndsWord (c :: rest) := by
  intro d hd
  cases hd
  exact h

theorem scan_word (seen : List Char) (h : EndsWord rest) :
    scan ⟨tokens, .word seen⟩ rest = scan ⟨.word seen.reverse :: tokens, .between⟩ rest := by
  cases rest with
  | nil => rfl
  | cons c rest =>
    have hc : isWordChar c = false := h c rfl
    simp [scan_cons, feed, hc]

theorem scan_newline (level : Nat) (rest : List Char) :
    scan ⟨tokens, .between⟩ (newline level ++ rest) = scan ⟨tokens, .between⟩ rest := by
  have hblanks : ∀ n, scan ⟨tokens, .between⟩ (List.replicate n ' ' ++ rest)
      = scan ⟨tokens, .between⟩ rest := by
    intro n
    induction n with
    | zero => rfl
    | succ n ih => simpa [List.replicate_succ, scan_cons, feed, feedBetween, isSpace] using ih
  simpa [newline, scan_cons, feed, feedBetween, isSpace] using hblanks (2 * level)

/-- Between the name and the value of a member. -/
theorem scan_colon (rest : List Char) :
    scan ⟨tokens, .between⟩ (':' :: ' ' :: rest) = scan ⟨.colon :: tokens, .between⟩ rest := by
  simp [scan_cons, feed, feedBetween, isSpace, isWordChar, punctuation?, Numeral.isDigit]

end Scanner

namespace Value

mutual

/-- Whether a value has neither numbers nor parts without a meaning. -/
def IsPlain : Value → Prop
  | .number _ | .void => False
  | .array vs => ArePlain vs
  | .object ms => MembersPlain ms
  | _ => True

/-- All items are plain. -/
def ArePlain : List Value → Prop
  | [] => True
  | v :: rest => IsPlain v ∧ ArePlain rest

/-- All members are plain. -/
def MembersPlain : List (String × Value) → Prop
  | [] => True
  | (_, v) :: rest => IsPlain v ∧ MembersPlain rest

end

mutual

/-- The tokens of a plain value. -/
def tokens : Value → List Token
  | .string s => [.text (some s)]
  | .array [] => [.openBracket, .closeBracket]
  | .array (v :: rest) => .openBracket :: tokens v ++ itemTokens rest
  | .object [] => [.openBrace, .closeBrace]
  | .object ((name, v) :: rest) =>
    .openBrace :: .text (some name) :: .colon :: tokens v ++ memberTokens rest
  | v => [.word v.atom]

/-- The tokens of further items and the closing bracket. -/
def itemTokens : List Value → List Token
  | [] => [.closeBracket]
  | v :: rest => .comma :: tokens v ++ itemTokens rest

/-- The tokens of further members and the closing brace. -/
def memberTokens : List (String × Value) → List Token
  | [] => [.closeBrace]
  | (name, v) :: rest => .comma :: .text (some name) :: .colon :: tokens v ++ memberTokens rest

end

section Layout

open Scanner

variable {seen : List Token}

theorem endsWord_prettyItems (level : Nat) (vs : List Value) (rest : List Char) :
    EndsWord (prettyItems level vs ++ rest) := by
  cases vs <;> exact endsWord_cons rfl _

theorem endsWord_prettyMembers (level : Nat) (ms : List (String × Value)) (rest : List Char) :
    EndsWord (prettyMembers level ms ++ rest) := by
  cases ms <;> exact endsWord_cons rfl _

mutual

/-- The layout of a plain value is scanned as its tokens. -/
theorem scan_prettyChars (level : Nat) (rest : List Char) (hr : EndsWord rest) :
    ∀ (v : Value) (seen : List Token), v.IsPlain →
      scan ⟨seen, .between⟩ (prettyChars level v ++ rest)
        = scan ⟨v.tokens.reverse ++ seen, .between⟩ rest
  | .null, seen, _ => scan_word ['l', 'l', 'u', 'n'] hr
  | .bool true, seen, _ => scan_word ['e', 'u', 'r', 't'] hr
  | .bool false, seen, _ => scan_word ['e', 's', 'l', 'a', 'f'] hr
  | .string s, seen, _ => scan_quoted s rest
  | .array [], seen, _ => rfl
  | .array (v :: vs), seen, h => by
    have hopen : feed ⟨seen, .between⟩ '[' = some ⟨.openBracket :: seen, .between⟩ := rfl
    simp only [prettyChars, tokens, List.cons_append, List.append_assoc, scan_of_feed hopen,
      scan_newline]
    rw [scan_prettyChars (level + 1) _ (endsWord_prettyItems level vs rest) v _ h.1,
      scan_prettyItems level rest vs _ h.2]
    simp
  | .object [], seen, _ => rfl
  | .object ((name, v) :: ms), seen, h => by
    have hopen : feed ⟨seen, .between⟩ '\x7b' = some ⟨.openBrace :: seen, .between⟩ := rfl
    simp only [prettyChars, tokens, List.cons_append, List.append_assoc, scan_of_feed hopen,
      scan_newline, scan_quoted, scan_colon]
    rw [scan_prettyChars (level + 1) _ (endsWord_prettyMembers level ms rest) v _ h.1,
      scan_prettyMembers level rest ms _ h.2]
    simp

/-- The layout of further items is scanned as their tokens. -/
theorem scan_prettyItems (level : Nat) (rest : List Char) :
    ∀ (vs : List Value) (seen : List Token), ArePlain vs →
      scan ⟨seen, .between⟩ (prettyItems level vs ++ rest)
        = scan ⟨(itemTokens vs).reverse ++ seen, .between⟩ rest
  | [], seen, _ => by
    simp only [prettyItems, itemTokens, List.append_assoc, scan_newline]
    rfl
  | v :: vs, seen, h => by
    have hcomma : feed ⟨seen, .between⟩ ',' = some ⟨.comma :: seen, .between⟩ := rfl
    simp only [prettyItems, itemTokens, List.cons_append, List.append_assoc, scan_of_feed hcomma,
      scan_newline]
    rw [scan_prettyChars (level + 1) _ (endsWord_prettyItems level vs rest) v _ h.1,
      scan_prettyItems level rest vs _ h.2]
    simp

/-- The layout of further members is scanned as their tokens. -/
theorem scan_prettyMembers (level : Nat) (rest : List Char) :
    ∀ (ms : List (String × Value)) (seen : List Token), MembersPlain ms →
      scan ⟨seen, .between⟩ (prettyMembers level ms ++ rest)
        = scan ⟨(memberTokens ms).reverse ++ seen, .between⟩ rest
  | [], seen, _ => by
    simp only [prettyMembers, memberTokens, List.append_assoc, scan_newline]
    rfl
  | (name, v) :: ms, seen, h => by
    have hcomma : feed ⟨seen, .between⟩ ',' = some ⟨.comma :: seen, .between⟩ := rfl
    simp only [prettyMembers, memberTokens, List.cons_append, List.append_assoc,
      scan_of_feed hcomma, scan_newline, scan_quoted, scan_colon]
    rw [scan_prettyChars (level + 1) _ (endsWord_prettyMembers level ms rest) v _ h.1,
      scan_prettyMembers level rest ms _ h.2]
    simp

end

theorem ofChars?_prettyChars {v : Value} (h : v.IsPlain) :
    Token.ofChars? (prettyChars 0 v) = some v.tokens := by
  have hscan := scan_prettyChars 0 [] (by simp [EndsWord]) v [] h
  rw [List.append_nil, List.append_nil] at hscan
  calc
    Token.ofChars? (prettyChars 0 v) = scan ⟨[], .between⟩ (prettyChars 0 v) := rfl
    _ = some v.tokens.reverse.reverse := hscan
    _ = some v.tokens := by rw [List.reverse_reverse]

end Layout

end Value
end BlueprintControl.Json
