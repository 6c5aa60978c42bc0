import BlueprintControl.Json.Reader
import BlueprintControl.Proofs.Json.Tokens

/-!
# Reading back what was written

A value that is written in the indented layout is read back as it was, also from the octets of the
text. Numbers are left out, since stored records have none.

## Main definitions

* `Json.Builder.build`: the value of what is left of a sequence of tokens.

## Main statements

* `Json.Value.ofTokens?_tokens`: the tokens of a value stand for it.
* `Json.Value.readOctets?_pretty`: the octets of a written value are read back as the value.
-/
namespace BlueprintControl.Json

namespace Builder

/-- The value of tokens, given what stands in front of them. -/
def build (b : Builder) (ts : List Token) : Option Value := (ts.foldlM accept b).bind result

theorem build_cons (b : Builder) (t : Token) (ts : List Token) :
    b.build (t :: ts) = (b.accept t).bind fun b => b.build ts := by
  simp only [build, List.foldlM_cons]
  cases b.accept t <;> rfl

theorem build_of_accept {b b' : Builder} {t : Token} (h : b.accept t = some b') (ts : List Token) :
    b.build (t :: ts) = b'.build ts := by
  rw [build_cons, h, Option.bind_some]

variable {frames : List Frame} {rest : List Token}

/-- A value does not start with a closing bracket, so it may stand where one could. -/
theorem build_valueOrClose (v : Value) (rest : List Token) (result : Option Value) :
    build ⟨frames, .valueOrClose, result⟩ (v.tokens ++ rest)
      = build ⟨frames, .value, result⟩ (v.tokens ++ rest) := by
  obtain ⟨t, ts, hv, ht⟩ : ∃ t ts, v.tokens = t :: ts ∧ t ≠ .closeBracket := by
    cases v with
    | array vs => cases vs <;> exact ⟨_, _, rfl, by simp⟩
    | object ms => cases ms <;> exact ⟨_, _, rfl, by simp⟩
    | _ => exact ⟨_, _, rfl, by simp⟩
  have haccept : accept ⟨frames, .valueOrClose, result⟩ t = accept ⟨frames, .value, result⟩ t := by
    simp [accept, ht]
  rw [hv, List.cons_append, build_cons, build_cons, haccept]

/-- The name of a member and its colon, whether or not the object could be closed instead. -/
theorem build_name {expected : Expected} (h : expected = .name ∨ expected = .nameOrClose)
    (members : List (String × Value)) (name : String) :
    build ⟨.object members true none :: frames, expected, none⟩
        (.text (some name) :: .colon :: rest)
      = build ⟨.object members true (some name) :: frames, .value, none⟩ rest := by
  rcases h with rfl | rfl <;> rfl

mutual

/-- The tokens of a value are put together to the value. -/
theorem build_tokens (frames : List Frame) (rest : List Token) :
    ∀ v : Value, v.IsPlain →
      build ⟨frames, .value, none⟩ (v.tokens ++ rest) = build (place frames v) rest
  | .null, _ => rfl
  | .bool true, _ => rfl
  | .bool false, _ => rfl
  | .string s, _ => rfl
  | .array [], _ => rfl
  | .array (v :: vs), h => by
    have hopen : accept ⟨frames, .value, none⟩ .openBracket
        = some ⟨.array [] :: frames, .valueOrClose, none⟩ := rfl
    simp only [Value.tokens, List.cons_append, List.append_assoc]
    rw [build_of_accept hopen, build_valueOrClose, build_tokens _ _ v h.1]
    exact build_itemTokens frames rest vs [v] h.2
  | .object [], _ => rfl
  | .object ((name, v) :: ms), h => by
    have hopen : accept ⟨frames, .value, none⟩ .openBrace
        = some ⟨.object [] true none :: frames, .nameOrClose, none⟩ := rfl
    simp only [Value.tokens, List.cons_append, List.append_assoc]
    rw [build_of_accept hopen, build_name (.inr rfl), build_tokens _ _ v h.1]
    exact build_memberTokens frames rest ms [(name, v)] h.2

/-- Further items are added to those of the innermost array. -/
theorem build_itemTokens (frames : List Frame) (rest : List Token) :
    ∀ (vs read : List Value), Value.ArePlain vs →
      build ⟨.array read :: frames, .commaOrClose, none⟩ (Value.itemTokens vs ++ rest)
        = build (place frames (.array (read.reverse ++ vs))) rest
  | [], read, _ => by
    rw [List.append_nil]
    rfl
  | v :: vs, read, h => by
    have hcomma : accept ⟨.array read :: frames, .commaOrClose, none⟩ .comma
        = some ⟨.array read :: frames, .value, none⟩ := rfl
    simp only [Value.itemTokens, List.cons_append, List.append_assoc]
    rw [build_of_accept hcomma, build_tokens _ _ v h.1, place,
      build_itemTokens frames rest vs (v :: read) h.2]
    simp

/-- Further members are added to those of the innermost object. -/
theorem build_memberTokens (frames : List Frame) (rest : List Token) :
    ∀ (ms read : List (String × Value)), Value.MembersPlain ms →
      build ⟨.object read true none :: frames, .commaOrClose, none⟩ (Value.memberTokens ms ++ rest)
        = build (place frames (.object (read.reverse ++ ms))) rest
  | [], read, _ => by
    rw [List.append_nil]
    rfl
  | (name, v) :: ms, read, h => by
    have hcomma : accept ⟨.object read true none :: frames, .commaOrClose, none⟩ .comma
        = some ⟨.object read true none :: frames, .name, none⟩ := rfl
    simp only [Value.memberTokens, List.cons_append, List.append_assoc]
    rw [build_of_accept hcomma, build_name (.inl rfl), build_tokens _ _ v h.1, place]
    have hmore := build_memberTokens frames rest ms ((name, v) :: read) h.2
    simpa using hmore

end

end Builder

namespace Value

variable {v : Value}

theorem ofTokens?_tokens (h : v.IsPlain) : Value.ofTokens? v.tokens = some v := by
  have hbuild := Builder.build_tokens [] [] v h
  rw [List.append_nil] at hbuild
  exact hbuild

theorem read?_pretty (h : v.IsPlain) : Value.read? v.pretty = some v := by
  rw [read?, pretty, String.toList_ofList, ofChars?_prettyChars h, Option.bind_some,
    ofTokens?_tokens h]

end Value

theorem fromUTF8?_toUTF8 (s : String) : String.fromUTF8? s.toUTF8 = some s := by
  simp [String.fromUTF8?, String.toUTF8, s.isValidUTF8, String.fromUTF8]

/-- The octets of a text are its octets in UTF-8. -/
theorem textOfOctets_toUTF8 (s : String) : textOfOctets s.toUTF8 = s := by
  rw [textOfOctets, fromUTF8?_toUTF8]

theorem Value.readOctets?_pretty {v : Value} (h : v.IsPlain) :
    Value.readOctets? v.pretty.toUTF8 = some v := by
  rw [readOctets?, textOfOctets_toUTF8, read?_pretty h]

end BlueprintControl.Json
