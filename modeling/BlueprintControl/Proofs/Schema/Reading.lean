import BlueprintControl.Json.Format

/-!
# Readers that succeed

What it takes for a reader of records, sequences and variants to find its value: each field is
found under its name and its own reader succeeds.

## Main statements

* `Format.record_ok`: a record is read when its names are fine and all of its fields are read.
* `Json.record_object`: the same for an object.
* `Format.list_ok`, `Json.oneOf_string`: sequences and variants.
* `Json.decodeRead_eq_ok_iff`: texts.
-/
namespace BlueprintControl

variable {ν α β γ : Type}

namespace RecordReader

variable {fs : Fields ν} {name : String} {i : Nat} {v : ν} {read : ν → Except Fault α} {a : α}

theorem readAt_value (h : read v = .ok a) : readAt read fs i v = .value a := by
  rw [readAt, h]

theorem required_value (hfind : fs.find? name = some (i, v)) (h : read v = .ok a) :
    (required name read).read fs = .value a := by
  simp only [required, hfind, readAt_value h]

theorem optional_value {fallback : α} (hfind : fs.find? name = some (i, v))
    (h : read v = .ok a) : (optional name read fallback).read fs = .value a := by
  simp only [optional, hfind, readAt_value h]

theorem both_value {r : RecordReader ν α} {s : RecordReader ν β} {b : β}
    (hr : r.read fs = .value a) (hs : s.read fs = .value b) :
    (r.both s).read fs = .value (a, b) := by
  simp only [both, hr, hs, Found.both_value]

theorem map_value {r : RecordReader ν α} {f : α → β} {b : β} (hr : r.read fs = .value a)
    (hf : f a = b) : (r.map f).read fs = .value b := by
  simp only [map, hr, Found.map_value, hf]

end RecordReader

namespace Format

variable {F : Format ν}

theorem record_ok {name : String} {r : RecordReader ν α} {v : ν} {fs : Fields ν} {a : α}
    (hfields : F.fields name r.known v = .ok fs) (hnames : fs.names r.known = .value ())
    (hsurplus : fs.surplus = none) (hread : r.read fs = .value a) :
    F.record name r v = .ok a := by
  simp [record, hfields, hnames, hread, hsurplus, bind, Except.bind, pure, Except.pure]

/-- Every item is read on its own; its position matters to faults only. -/
theorem readItems_ok {read : ν → Except Fault β} {write : α → ν} {f : α → β} {xs : List α}
    (h : ∀ x ∈ xs, read (write x) = .ok (f x)) (position : Nat) :
    readItems read position (xs.map write) = .ok (xs.map f) := by
  induction xs generalizing position with
  | nil => rfl
  | cons x xs ih =>
    obtain ⟨hx, hxs⟩ := List.forall_mem_cons.mp h
    have hfault (g : Fault → Fault) : (Except.ok (f x)).mapError g = .ok (f x) := rfl
    simp [readItems, hx, hfault, ih hxs, bind, Except.bind, pure, Except.pure]

theorem list_ok {read : ν → Except Fault β} {write : α → ν} {f : α → β} {xs : List α} {v : ν}
    (hitems : F.items v = .ok (xs.map write)) (h : ∀ x ∈ xs, read (write x) = .ok (f x)) :
    F.list read v = .ok (xs.map f) := by
  simp only [list, hitems, bind, Except.bind]
  exact readItems_ok h 0

end Format

namespace Json

/-- A text is read if it has a value, and the value is read. -/
theorem decodeRead_eq_ok_iff {read : Format Value → Value → Except Fault α} {found : Option Value}
    {a : α} : decodeRead read found = .ok a ↔
      ∃ v, found = some v ∧ read (format .text) v = .ok a := by
  unfold decodeRead
  split
  case h_1 => simp
  case h_2 v =>
    cases hread : read (format .text) v with
    | ok b => simp [hread]
    | error f => by_cases hintact : v.intact <;> simp [hread, hintact]

/-- The entries of an object. -/
def entries (members : List (String × Value)) : Fields Value where
  entries := members.map fun m => (.ok m.1, m.2)
  segment := fun i => .index i
  missing := Fault.missingField
  surplus := none

/-- An object is read when no name is there twice and all of its fields are read. -/
theorem record_object {source : Source} {name : String} {r : RecordReader Value α}
    {members : List (String × Value)} {a : α}
    (hnames : (entries members).names r.known = .value ())
    (hread : r.read (entries members) = .value a) :
    (format source).record name r (.object members) = .ok a :=
  Format.record_ok rfl hnames rfl hread

theorem list_array (source : Source) {read : Value → Except Fault β} {write : α → Value}
    {f : α → β} (h : ∀ x, read (write x) = .ok (f x)) (xs : List α) :
    (format source).list read (.array (xs.map write)) = .ok (xs.map f) :=
  Format.list_ok rfl fun x _ => h x

theorem oneOf_string (source : Source) {table : List (String × α)} {name : String} {a : α}
    (h : table.lookup name = some a) : (format source).oneOf table (.string name) = .ok a := by
  have hname : (table.map Prod.fst).contains name = true := by
    rw [List.contains_iff_mem]
    obtain ⟨_, _, rfl, _⟩ := List.lookup_eq_some_iff.mp h
    simp
  simp only [Format.oneOf, format, variant, known, hname, if_true, bind, Except.bind, h, pure,
    Except.pure]

theorem nullable_ofOption (source : Source) (s : Option String) :
    (format source).nullable (format source).string (.ofOption s) = .ok s := by
  cases s <;> rfl

end Json
end BlueprintControl
