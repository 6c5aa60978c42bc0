import BlueprintControl.Keyed

/-!
# The keys of a map

A key is listed once, in the place where it was first put, for as long as it has a value.

## Main statements

* `mem_keys_iff`: the keys are those that have a value.
* `keys_put`: a key stays in its place, and comes last if it is new.
-/
namespace BlueprintControl.Keyed

variable {α β : Type} {m : Keyed β} {key other : String} {b : β}

theorem mem_keys_iff : key ∈ m.keys ↔ ∃ b, m.find? key = some b := by
  obtain ⟨entries⟩ := m
  simp only [find?, keys]
  induction entries with
  | nil => simp [findEntry]
  | cons e rest ih =>
    by_cases hk : key = e.1
    · simp [findEntry, hk]
    · simpa [findEntry, hk] using ih

theorem mem_keys_put : other ∈ (m.put key b).keys ↔ other = key ∨ other ∈ m.keys := by
  by_cases h : other = key <;> simp [mem_keys_iff, h]

theorem mem_keys_of_mem_erase (h : other ∈ (m.erase key).keys) : other ∈ m.keys := by
  obtain ⟨b, hb⟩ := mem_keys_iff.mp h
  rw [find?_erase] at hb
  split at hb
  · cases hb
  · exact mem_keys_iff.mpr ⟨b, hb⟩

theorem keys_put_of_find? (h : m.find? key = some b) (b' : β) : (m.put key b').keys = m.keys := by
  obtain ⟨entries⟩ := m
  simp only [Keyed.find?, Keyed.put, Keyed.keys] at h ⊢
  induction entries with
  | nil => cases h
  | cons e rest ih =>
    by_cases hk : key = e.1
    · simp [putEntry, hk]
    · simp only [findEntry, if_neg hk] at h
      simp [putEntry, hk, ih h]

theorem keys_put_of_absent (h : m.find? key = none) (b : β) :
    (m.put key b).keys = m.keys ++ [key] := by
  obtain ⟨entries⟩ := m
  simp only [Keyed.find?, Keyed.put, Keyed.keys] at h ⊢
  induction entries with
  | nil => rfl
  | cons e rest ih =>
    by_cases hk : key = e.1
    · simp [findEntry, hk] at h
    · simp only [findEntry, if_neg hk] at h
      simp [putEntry, hk, ih h]

/-- A key stays in its place, and comes last if it is new. -/
theorem keys_put (m : Keyed β) (key : String) (b : β) :
    (m.put key b).keys = m.keys ++ [key].filter (· ∉ m.keys) := by
  cases hfound : m.find? key with
  | some b' =>
    have hold : key ∈ m.keys := mem_keys_iff.mpr ⟨b', hfound⟩
    simp [keys_put_of_find? hfound b, hold]
  | none =>
    have hnew : key ∉ m.keys := by simp [mem_keys_iff, hfound]
    simp [keys_put_of_absent hfound b, hnew]

theorem nodup_keys_put (h : m.keys.Nodup) : (m.put key b).keys.Nodup := by
  rw [keys_put]
  by_cases hk : key ∈ m.keys
  · simpa [hk] using h
  · simp only [hk, not_false_eq_true, decide_true, List.filter_cons_of_pos, List.filter_nil]
    refine List.nodup_append.mpr ⟨h, by simp, ?_⟩
    rintro a ha b hb rfl
    exact hk (List.mem_singleton.mp hb ▸ ha)

theorem keys_erase (m : Keyed β) (key : String) :
    (m.erase key).keys = m.keys.filter (key ≠ ·) := by
  obtain ⟨entries⟩ := m
  simp only [Keyed.erase, Keyed.keys]
  induction entries with
  | nil => rfl
  | cons e rest ih =>
    by_cases hk : key = e.1
    · subst hk
      simpa [dropEntry] using ih
    · simp [dropEntry, hk, ih]

/-- A key that does not count can be put without a change to what is made of the keys. -/
theorem filterMap_keys_put {f : String → Option α} (hf : f key = none) (m : Keyed β) (b : β) :
    (m.put key b).keys.filterMap f = m.keys.filterMap f := by
  obtain ⟨entries⟩ := m
  simp only [Keyed.put, Keyed.keys]
  induction entries with
  | nil => simp [putEntry, hf]
  | cons e rest ih =>
    by_cases hk : key = e.1
    · simp [putEntry, hk]
    · simp [putEntry, hk, List.filterMap_cons, ih]

theorem filterMap_keys_erase {f : String → Option α} (hf : f key = none) (m : Keyed β) :
    (m.erase key).keys.filterMap f = m.keys.filterMap f := by
  obtain ⟨entries⟩ := m
  simp only [Keyed.erase, Keyed.keys]
  induction entries with
  | nil => rfl
  | cons e rest ih =>
    by_cases hk : key = e.1
    · simp [dropEntry, ← hk, hf, ih]
    · simp [dropEntry, hk, List.filterMap_cons, ih]

end BlueprintControl.Keyed
