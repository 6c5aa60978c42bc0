import BlueprintControl.Proofs.Schema.Reading
import BlueprintControl.Proofs.Schema.Results
import Mathlib.Data.List.Forall2

/-!
# What is read of what is written

A reader gives a value exactly if the node is written as this value is: a record by its fields, a
sequence by its items, and a value of a table by its name. So what is read can be told from the node
without the reader, in every format.

## Main definitions

* `Fields.Has`: what a field is like, or that it may be absent.
* `Format.Lists`: the names that the items of a node are, with all repeats.

## Main statements

* `Format.record_eq_ok_iff`, `RecordReader.required_eq_value_iff`,
  `RecordReader.optional_eq_value_iff`: records.
* `Format.list_eq_ok_iff`: sequences.
* `Format.list_oneOf_iff`: sequences of names.
-/
namespace BlueprintControl

variable {ν α : Type}

/-! ## Records -/

/-- The value of a field is as it has to be. If there is no such field, something else has to
hold. -/
def Fields.Has (fs : Fields ν) (name : String) (P : ν → Prop) (absent : Prop) : Prop :=
  match fs.find? name with
  | some (_, v) => P v
  | none => absent

/-- A field whose value is made from something that is written, or the field is absent and its value
is made from what stands for that. -/
theorem Fields.has_made_iff {β : Type} {fs : Fields ν} {name : String} {P : β → ν → Prop}
    {f : β → α} {b : β} {a : α} :
    fs.Has name (fun v => ∃ x, P x v ∧ f x = a) (a = f b) ↔
      ∃ x, fs.Has name (P x) (x = b) ∧ f x = a := by
  unfold Fields.Has
  cases fs.find? name with
  | none => simp [eq_comm]
  | some p => rfl

namespace RecordReader

variable {fs : Fields ν} {name : String} {read : ν → Except Fault α} {a fallback : α}

theorem required_eq_value_iff :
    (required name read).read fs = .value a ↔ fs.Has name (fun v => read v = .ok a) False := by
  unfold Fields.Has
  cases hfind : fs.find? name with
  | none => simp [required, hfind]
  | some p =>
    refine ⟨fun h => ?_, fun h => required_value hfind h⟩
    obtain ⟨i, v, hfind', hv⟩ := required_eq_value h
    cases hfind.symm.trans hfind'
    exact hv

theorem optional_eq_value_iff :
    (optional name read fallback).read fs = .value a ↔
      fs.Has name (fun v => read v = .ok a) (a = fallback) := by
  unfold Fields.Has
  cases hfind : fs.find? name with
  | none => simp [optional, hfind, eq_comm]
  | some p =>
    refine ⟨fun h => ?_, fun h => optional_value hfind h⟩
    obtain ⟨i, v, hfind', hv⟩ | ⟨hnone, -⟩ := optional_eq_value h
    · cases hfind.symm.trans hfind'
      exact hv
    · cases hfind.symm.trans hnone

end RecordReader

namespace Format

variable {F : Format ν} {v : ν} {a : α} {as : List α}

theorem record_eq_ok_iff {name : String} {r : RecordReader ν α} :
    F.record name r v = .ok a ↔ ∃ fs, F.fields name r.known v = .ok fs ∧
      fs.names r.known = .value () ∧ fs.surplus = none ∧ r.read fs = .value a := by
  refine ⟨sound_of_record, ?_⟩
  rintro ⟨fs, hfields, hnames, hsurplus, hread⟩
  exact record_ok hfields hnames hsurplus hread

/-! ## Sequences -/

theorem readItems_of_map_read {read : ν → Except Fault α} {vs : List ν}
    (h : vs.map read = as.map .ok) (position : Nat) : readItems read position vs = .ok as := by
  induction vs generalizing as position with
  | nil =>
    obtain rfl : as = [] := by simpa [eq_comm] using h
    rfl
  | cons v vs ih =>
    cases as with
    | nil => cases h
    | cons a as =>
      obtain ⟨hv, hvs⟩ : read v = .ok a ∧ vs.map read = as.map .ok := by simpa using h
      have hfault (g : Fault → Fault) : (Except.ok a).mapError g = .ok a := rfl
      simp [readItems, hv, hfault, ih hvs, bind, Except.bind, pure, Except.pure]

theorem list_eq_ok_iff {read : ν → Except Fault α} :
    F.list read v = .ok as ↔ ∃ vs, F.items v = .ok vs ∧ vs.map read = as.map .ok := by
  refine ⟨exists_items_of_list, ?_⟩
  rintro ⟨vs, hitems, hmap⟩
  simp only [list, hitems, bind, Except.bind]
  exact readItems_of_map_read hmap 0

/-! ## Names -/

/-- The items of a node are the names of these values, in order and with all repeats. -/
def Lists (F : Format ν) (names : List String) (name : α → String) (as : List α) (v : ν) : Prop :=
  ∃ items, F.items v = .ok items ∧ items.map (F.variant names) = as.map fun a => .ok (name a)

/-- A table of values by name has nothing but these values under these names. -/
theorem lookup_eq_some_iff {name : α → String}
    (h : ∀ a, (as.map fun a => (name a, a)).lookup (name a) = some a) {n : String} :
    (as.map fun a => (name a, a)).lookup n = some a ↔ n = name a := by
  constructor
  · intro hlookup
    obtain ⟨front, rest, heq, -⟩ := List.lookup_eq_some_iff.mp hlookup
    have hmem : (n, a) ∈ as.map fun a => (name a, a) := by simp [heq]
    obtain ⟨b, -, hb⟩ := List.mem_map.mp hmem
    cases hb
    rfl
  · rintro rfl
    exact h a

variable {table : List (String × α)} {name : α → String}

theorem oneOf_eq_ok_iff (h : ∀ n a, table.lookup n = some a ↔ n = name a) :
    F.oneOf table v = .ok a ↔ F.variant (table.map Prod.fst) v = .ok (name a) := by
  constructor
  · intro hread
    obtain ⟨n, hvariant, hread⟩ := Except.exists_of_bind_eq_ok hread
    cases hlookup : table.lookup n with
    | none =>
      simp only [hlookup] at hread
      cases hread
    | some b =>
      simp only [hlookup] at hread
      cases hread
      rw [hvariant, (h n a).mp hlookup]
  · intro hvariant
    simp [oneOf, hvariant, (h _ a).mpr rfl, bind, Except.bind, pure, Except.pure]

/-- A sequence of values of a table is read exactly if it lists their names. -/
theorem list_oneOf_iff (h : ∀ n a, table.lookup n = some a ↔ n = name a) :
    F.list (F.oneOf table) v = .ok as ↔ F.Lists (table.map Prod.fst) name as v := by
  have hitems : ∀ vs : List ν, vs.map (F.oneOf table) = as.map .ok ↔
      vs.map (F.variant (table.map Prod.fst)) = as.map fun a => .ok (name a) := by
    intro vs
    simp only [← List.forall₂_eq_eq_eq, List.forall₂_map_left_iff, List.forall₂_map_right_iff,
      oneOf_eq_ok_iff h]
  simp only [list_eq_ok_iff, Lists, hitems]

end Format
end BlueprintControl
