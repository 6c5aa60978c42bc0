import BlueprintControl.Text.Lowercase

/-!
# The lower-case form of a part of a text

Every character has one lower-case form wherever it stands, but for the capital sigma, which has
another one at the end of a word. So a part of a text is lowered as if it stood alone, unless it cuts
a word in two and one of its capital sigmas is next to the cut: the word goes on behind the part, or
has begun in front of it.

## Main definitions

* `isFinal`, `formAt`: where a capital sigma is final, and the form of a character in its place.
* `lowerBetween`: the form of a part of a text.
* `CutsWord`: a part of a text cuts a word at a capital sigma.

## Main statements

* `lowerAfter_append`: the parts of a text are lowered one by one, each between the others.
* `lowerBetween_eq_iff`: when a part has the same form in two places.
* `lowerBetween_eq_lowerAfter_iff`: when it has the form that it has alone.
-/
namespace BlueprintControl.Text

variable {before after before' after' part : List Char}

/-- Whether a word ends between these characters. Those in front come nearest first. -/
def isFinal (before after : List Char) : Bool := meetsCased before && !meetsCased after

/-- The form of a character between these. -/
def formAt (before after : List Char) (c : Char) : List Char :=
  if c = 'Σ' then if isFinal before after then ['ς'] else ['σ'] else lowerChar c

/-- The form of a part of a text that stands between these characters. -/
def lowerBetween (before after : List Char) : List Char → List Char
  | [] => []
  | c :: rest => formAt before (rest ++ after) c ++ lowerBetween (c :: before) after rest

theorem lowerAfter_cons (before : List Char) (c : Char) (rest : List Char) :
    lowerAfter before (c :: rest) = formAt before rest c ++ lowerAfter (c :: before) rest := rfl

/-- The parts of a text are lowered one by one. -/
theorem lowerAfter_append (before part after : List Char) :
    lowerAfter before (part ++ after)
      = lowerBetween before after part ++ lowerAfter (part.reverse ++ before) after := by
  induction part generalizing before with
  | nil => rfl
  | cons c rest ih =>
    rw [List.cons_append, lowerAfter_cons, ih, lowerBetween, List.append_assoc,
      List.reverse_cons, List.append_assoc, List.singleton_append]

theorem lowerBetween_nil (before cs : List Char) : lowerBetween before [] cs = lowerAfter before cs := by
  have hwhole := lowerAfter_append before cs []
  simpa [lowerAfter] using hwhole.symm

theorem meetsCased_append (cs ds : List Char) : meetsCased (cs ++ ds)
    = (meetsCased cs || cs.all isCaseIgnorable && meetsCased ds) := by
  induction cs with
  | nil => rfl
  | cons c rest ih => cases h : isCaseIgnorable c <;> simp [meetsCased, h, ih]

/-- Characters that are all passed over are not cased. -/
theorem meetsCased_eq_false_of_all {cs : List Char} (h : cs.all isCaseIgnorable = true) :
    meetsCased cs = false := by
  induction cs with
  | nil => rfl
  | cons c rest ih =>
    rw [List.all_cons, Bool.and_eq_true] at h
    rw [meetsCased, if_pos h.1, ih h.2]

/-! ## A part in two places -/

theorem length_formAt (c : Char) :
    (formAt before after c).length = (formAt before' after' c).length := by
  by_cases hc : c = 'Σ'
  · simp only [formAt, if_pos hc]
    split <;> split <;> rfl
  · simp only [formAt, if_neg hc]

theorem formAt_eq_iff {c : Char} : formAt before after c = formAt before' after' c ↔
    (c = 'Σ' → isFinal before after = isFinal before' after') := by
  by_cases hc : c = 'Σ'
  · simp only [formAt, hc, forall_const]
    cases isFinal before after <;> cases isFinal before' after' <;> decide
  · simp [formAt, hc]

/-- A part has the same form in two places exactly if its capital sigmas end a word in both of them
or in none. -/
theorem lowerBetween_eq_iff :
    lowerBetween before after part = lowerBetween before' after' part ↔
      ∀ left right, part = left ++ 'Σ' :: right →
        isFinal (left.reverse ++ before) (right ++ after)
          = isFinal (left.reverse ++ before') (right ++ after') := by
  induction part generalizing before before' with
  | nil => simp [lowerBetween]
  | cons c rest ih =>
    have hsplit : lowerBetween before after (c :: rest) = lowerBetween before' after' (c :: rest) ↔
        formAt before (rest ++ after) c = formAt before' (rest ++ after') c ∧
          lowerBetween (c :: before) after rest = lowerBetween (c :: before') after' rest := by
      constructor
      · exact fun h => List.append_inj h (length_formAt c)
      · rintro ⟨hform, hrest⟩
        rw [lowerBetween, lowerBetween, hform, hrest]
    rw [hsplit, formAt_eq_iff, ih]
    constructor
    · rintro ⟨hfirst, hothers⟩ left right hpart
      cases left with
      | nil =>
        obtain ⟨rfl, rfl⟩ := List.cons.inj hpart
        exact hfirst rfl
      | cons d left =>
        obtain ⟨rfl, rfl⟩ := List.cons.inj hpart
        simpa using hothers left right rfl
    · intro h
      refine ⟨?_, fun left right hrest => ?_⟩
      · rintro rfl
        exact h [] rest rfl
      · subst hrest
        simpa using h (c :: left) right rfl

/-! ## A part alone -/

/-- A part of a text cuts a word at a capital sigma: behind the last sigma, and characters without
weight, the word goes on; or a word that has begun in front of the part ends with its first sigma. -/
def CutsWord (before part after : List Char) : Prop :=
  ∃ left right, part = left ++ 'Σ' :: right ∧
    (meetsCased left.reverse = true ∧ right.all isCaseIgnorable = true ∧ meetsCased after = true ∨
      left.all isCaseIgnorable = true ∧ meetsCased before.reverse = true ∧
        meetsCased (right ++ after) = false)

theorem isFinal_ne_iff (left right : List Char) :
    isFinal (left.reverse ++ before) (right ++ after) ≠ isFinal left.reverse right ↔
      meetsCased left.reverse = true ∧ right.all isCaseIgnorable = true ∧ meetsCased after = true ∨
        left.all isCaseIgnorable = true ∧ meetsCased before = true ∧
          meetsCased (right ++ after) = false := by
  have hleft : left.all isCaseIgnorable = true → meetsCased left.reverse = false := by
    intro hall
    exact meetsCased_eq_false_of_all (by rwa [List.all_reverse])
  have hright : right.all isCaseIgnorable = true → meetsCased right = false :=
    meetsCased_eq_false_of_all
  simp only [isFinal, meetsCased_append, List.all_reverse]
  -- What is left is about six truth values, two of which exclude two others.
  generalize left.all isCaseIgnorable = passedLeft, right.all isCaseIgnorable = passedRight,
    meetsCased left.reverse = casedLeft, meetsCased right = casedRight,
    meetsCased before = casedBefore, meetsCased after = casedAfter at hleft hright ⊢
  decide +revert

/-- A part has the form that it has alone exactly if it does not cut a word at a capital sigma. -/
theorem lowerBetween_eq_lowerAfter_iff :
    lowerBetween before.reverse after part = lowerAfter [] part ↔ ¬ CutsWord before part after := by
  rw [← lowerBetween_nil, lowerBetween_eq_iff]
  simp only [List.append_nil]
  constructor
  · rintro hsame ⟨left, right, hpart, hcut⟩
    exact (isFinal_ne_iff left right).mpr hcut (hsame left right hpart)
  · intro huncut left right hpart
    refine Decidable.byContradiction fun hne => ?_
    exact huncut ⟨left, right, hpart, (isFinal_ne_iff left right).mp hne⟩

end BlueprintControl.Text
