import BlueprintControl.Uuid

/-!
# Reading back event identifiers

## Main statements

* `Uuid.parse_render`: an identifier is read back from its five groups.
-/
namespace BlueprintControl.Uuid

theorem ofDigits?_map (u : Uuid) : ofDigits? (u.digits.map hexDigit) = some u := by
  have hread : (u.digits.map hexDigit).mapM hexValue? = some u.digits := by
    induction u.digits with
    | nil => rfl
    | cons d ds ih => simp [ih]
  simp [ofDigits?, hread, u.length_digits]

/-- Hyphens between groups of the right lengths are left out. -/
theorem ofGroups?_append {a b c d : List Char} (ha : a.length = 8) (hb : b.length = 4)
    (hc : c.length = 4) (hd : d.length = 4) (e : List Char) :
    ofGroups? (a ++ '-' :: b ++ '-' :: c ++ '-' :: d ++ '-' :: e) =
      ofDigits? (a ++ b ++ c ++ d ++ e) := by
  simp [ofGroups?, ha, hb, hc, hd, List.getElem?_append, List.drop_append, List.drop_of_length_le]

theorem take_append_groups (cs : List Char) :
    cs.take 8 ++ (cs.drop 8).take 4 ++ (cs.drop 12).take 4 ++ (cs.drop 16).take 4 ++ cs.drop 20 =
      cs := by
  calc
    _ = cs.take 8 ++ ((cs.drop 8).take 4 ++ ((cs.drop 12).take 4 ++
        ((cs.drop 16).take 4 ++ (cs.drop 16).drop 4))) := by simp [List.drop_drop]
    _ = cs.take 8 ++ ((cs.drop 8).take 4 ++ ((cs.drop 12).take 4 ++ (cs.drop 12).drop 4)) := by
      rw [List.take_append_drop, List.drop_drop]
    _ = cs.take 8 ++ ((cs.drop 8).take 4 ++ (cs.drop 8).drop 4) := by
      rw [List.take_append_drop, List.drop_drop]
    _ = cs := by rw [List.take_append_drop, List.take_append_drop]

theorem length_renderChars (u : Uuid) : u.renderChars.length = 36 := by
  simp [renderChars, u.length_digits]

theorem ofGroups?_renderChars (u : Uuid) : ofGroups? u.renderChars = some u := by
  have hlength : (u.digits.map hexDigit).length = 32 := by simp [u.length_digits]
  rw [renderChars, ofGroups?_append (by simp [hlength]) (by simp [hlength]) (by simp [hlength])
    (by simp [hlength]), take_append_groups, ofDigits?_map]

/-- The text starts with a digit: neither a brace nor the letter of a prefix is one. -/
theorem unwrap_renderChars (u : Uuid) : unwrap u.renderChars = (u.renderChars, 0, true) := by
  obtain ⟨d, ds, hds⟩ : ∃ d ds, u.digits = d :: ds :=
    List.exists_cons_of_ne_nil (List.ne_nil_of_length_pos (by simp [u.length_digits]))
  obtain ⟨rest, hrest⟩ : ∃ rest, u.renderChars = hexDigit d :: rest := by
    simp [renderChars, hds]
  have hbrace : ∀ d, hexDigit d ≠ '\x7b' := by decide
  have hurn : ∀ d, 'u' ≠ hexDigit d := by decide
  simp [unwrap, hrest, hbrace d, hurn d]

/-- An identifier is read back from its five groups. -/
theorem parse_render (u : Uuid) : parse u.render = .ok u := by
  simp [parse, parse?, render, unwrap_renderChars, length_renderChars, ofGroups?_renderChars]

end BlueprintControl.Uuid
