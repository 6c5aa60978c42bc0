import BlueprintControl.Schema.Format

/-!
# What readers give

What holds of everything that the readers of the fields give, and of the values of fields that are
absent, holds of the records that are put together from them. It does not matter which format it
is, nor what the documents look like.

## Main definitions

* `RecordReader.Gives`: whatever is read has a property.

## Main statements

* `RecordReader.required_eq_value`, `RecordReader.optional_eq_value`: where a field is read from.
* `Format.exists_fields_of_record`, `Format.exists_items_of_list`: where records and lists are.
* `RecordReader.gives_required`, `RecordReader.gives_optional`: single fields.
* `Format.gives_record`, `Format.gives_list`: whole records, and the items of sequences.
-/
namespace BlueprintControl

variable {ν α β : Type} {P : α → Prop} {Q : β → Prop}

theorem Except.exists_of_bind_eq_ok {ε : Type} {x : Except ε α} {f : α → Except ε β} {b : β}
    (h : x >>= f = .ok b) : ∃ a, x = .ok a ∧ f a = .ok b := by
  cases x with
  | error e => cases h
  | ok a => exact ⟨a, rfl, h⟩

namespace Found

theorem both_eq_value_iff {a : Found α} {b : Found β} {p : α × β} :
    a.both b = .value p ↔ a = .value p.1 ∧ b = .value p.2 := by
  obtain ⟨x, y⟩ := p
  cases a with
  | value a => cases b <;> simp [both]
  | fault i f =>
    cases b with
    | value b => simp [both]
    | fault j g =>
      simp only [both]
      split <;> simp

theorem map_eq_value_iff {f : α → β} {a : Found α} {b : β} :
    a.map f = .value b ↔ ∃ x, a = .value x ∧ f x = b := by
  cases a <;> simp [map]

theorem toExcept_eq_ok_iff {a : Found α} {x : α} : a.toExcept = .ok x ↔ a = .value x := by
  cases a <;> simp [toExcept]

end Found

namespace RecordReader

/-- Whatever the entries of the record are, what is read of them has this property. -/
def Gives (r : RecordReader ν α) (P : α → Prop) : Prop := ∀ fs a, r.read fs = .value a → P a

theorem gives_trivial (r : RecordReader ν α) : r.Gives fun _ => True := fun _ _ _ => trivial

variable {name : String} {read : ν → Except Fault α} {r : RecordReader ν α}
  {s : RecordReader ν β}

theorem eq_ok_of_readAt {fs : Fields ν} {i : Nat} {v : ν} {a : α}
    (h : readAt read fs i v = .value a) : read v = .ok a := by
  unfold readAt at h
  cases hread : read v with
  | ok a' =>
    rw [hread] at h
    cases h
    rfl
  | error f =>
    rw [hread] at h
    cases h

theorem required_eq_value {fs : Fields ν} {a : α} (h : (required name read).read fs = .value a) :
    ∃ i v, fs.find? name = some (i, v) ∧ read v = .ok a := by
  simp only [required] at h
  split at h
  case h_1 i v hfind => exact ⟨i, v, hfind, eq_ok_of_readAt h⟩
  case h_2 => cases h

theorem optional_eq_value {fs : Fields ν} {fallback a : α}
    (h : (optional name read fallback).read fs = .value a) :
    (∃ i v, fs.find? name = some (i, v) ∧ read v = .ok a) ∨
      fs.find? name = none ∧ a = fallback := by
  simp only [optional] at h
  split at h
  case h_1 i v hfind => exact .inl ⟨i, v, hfind, eq_ok_of_readAt h⟩
  case h_2 hfind =>
    cases h
    exact .inr ⟨hfind, rfl⟩

theorem gives_required (h : ∀ v a, read v = .ok a → P a) : (required name read).Gives P := by
  intro fs a hread
  obtain ⟨i, v, -, hv⟩ := required_eq_value hread
  exact h v a hv

theorem gives_optional (h : ∀ v a, read v = .ok a → P a) {fallback : α} (habsent : P fallback) :
    (optional name read fallback).Gives P := by
  intro fs a hread
  obtain ⟨i, v, -, hv⟩ | ⟨-, rfl⟩ := optional_eq_value hread
  · exact h v a hv
  · exact habsent

theorem Gives.both (hr : r.Gives P) (hs : s.Gives Q) :
    (r.both s).Gives fun p => P p.1 ∧ Q p.2 := by
  intro fs p hread
  obtain ⟨ha, hb⟩ := Found.both_eq_value_iff.mp hread
  exact ⟨hr fs p.1 ha, hs fs p.2 hb⟩

theorem Gives.map {f : α → β} (hr : r.Gives P) (h : ∀ a, P a → Q (f a)) : (r.map f).Gives Q := by
  intro fs b hread
  obtain ⟨a, ha, rfl⟩ := Found.map_eq_value_iff.mp hread
  exact h a (hr fs a ha)

end RecordReader

namespace Format

variable {F : Format ν}

/-- A record that is read has entries whose names are fine, and nothing else is wrong with it. -/
theorem sound_of_record {name : String} {r : RecordReader ν α} {v : ν} {a : α}
    (h : F.record name r v = .ok a) :
    ∃ fs, F.fields name r.known v = .ok fs ∧ fs.names r.known = .value () ∧ fs.surplus = none ∧
      r.read fs = .value a := by
  obtain ⟨fs, hfields, h⟩ := Except.exists_of_bind_eq_ok h
  obtain ⟨⟨u, x⟩, hfound, h⟩ := Except.exists_of_bind_eq_ok h
  obtain ⟨hnames, hread⟩ := Found.both_eq_value_iff.mp (Found.toExcept_eq_ok_iff.mp hfound)
  cases hsurplus : fs.surplus with
  | some f =>
    simp only [hsurplus] at h
    cases h
  | none =>
    simp only [hsurplus] at h
    cases h
    exact ⟨fs, hfields, hnames, hsurplus, hread⟩

theorem exists_fields_of_record {name : String} {r : RecordReader ν α} {v : ν} {a : α}
    (h : F.record name r v = .ok a) :
    ∃ fs, F.fields name r.known v = .ok fs ∧ r.read fs = .value a := by
  obtain ⟨fs, hfields, -, -, hread⟩ := sound_of_record h
  exact ⟨fs, hfields, hread⟩

theorem gives_record {name : String} {r : RecordReader ν α} {v : ν} {a : α} (hr : r.Gives P)
    (h : F.record name r v = .ok a) : P a := by
  obtain ⟨fs, -, hread⟩ := exists_fields_of_record h
  exact hr fs a hread

/-- Items are read one by one, and none of them is left out. -/
theorem map_read_of_readItems {read : ν → Except Fault α} {vs : List ν} {position : Nat}
    {as : List α} (h : readItems read position vs = .ok as) : vs.map read = as.map .ok := by
  induction vs generalizing position as with
  | nil =>
    cases h
    rfl
  | cons v vs ih =>
    obtain ⟨a, hfirst, h⟩ := Except.exists_of_bind_eq_ok h
    obtain ⟨rest, hrest, h⟩ := Except.exists_of_bind_eq_ok h
    cases h
    cases hv : read v with
    | error f =>
      rw [hv] at hfirst
      cases hfirst
    | ok a' =>
      rw [hv] at hfirst
      cases hfirst
      simp [hv, ih hrest]

theorem exists_items_of_list {read : ν → Except Fault α} {v : ν} {as : List α}
    (h : F.list read v = .ok as) : ∃ vs, F.items v = .ok vs ∧ vs.map read = as.map .ok := by
  obtain ⟨vs, hitems, h⟩ := Except.exists_of_bind_eq_ok h
  exact ⟨vs, hitems, map_read_of_readItems h⟩

theorem gives_list {read : ν → Except Fault α} {v : ν} {as : List α}
    (hread : ∀ v a, read v = .ok a → P a) (h : F.list read v = .ok as) : ∀ a ∈ as, P a := by
  obtain ⟨vs, -, hmap⟩ := exists_items_of_list h
  intro a ha
  have hmem : .ok a ∈ vs.map read := hmap ▸ List.mem_map_of_mem ha
  obtain ⟨v, -, hv⟩ := List.mem_map.mp hmem
  exact hread v a hv

end Format
end BlueprintControl
