/-!
# Maps by key

A `Keyed` map holds at most one value for each key and lists the keys in the order in which they
were first put.

## Main definitions

* `Keyed.find?`, `Keyed.put`, `Keyed.erase`: look up, replace or append, and drop.
* `find?_put`, `find?_erase`: what the operations do to every look-up.
-/
namespace BlueprintControl

/-- A map from texts, in order of first insertion. -/
structure Keyed (β : Type) where
  entries : List (String × β)
  deriving DecidableEq

namespace Keyed

variable {β : Type}

/-- No keys. -/
def empty : Keyed β := ⟨[]⟩

instance : Inhabited (Keyed β) := ⟨empty⟩

/-- The value of the first entry with that key. -/
def findEntry (key : String) : List (String × β) → Option β
  | [] => none
  | e :: rest => if key = e.1 then some e.2 else findEntry key rest

/-- Replaces the value of a key in place, or appends the key. -/
def putEntry (key : String) (b : β) : List (String × β) → List (String × β)
  | [] => [(key, b)]
  | e :: rest => if key = e.1 then (key, b) :: rest else e :: putEntry key b rest

/-- Drops the entries of a key. -/
def dropEntry (key : String) : List (String × β) → List (String × β)
  | [] => []
  | e :: rest => if key = e.1 then dropEntry key rest else e :: dropEntry key rest

/-- The value of a key. -/
def find? (m : Keyed β) (key : String) : Option β := findEntry key m.entries

/-- Gives a key a value. -/
def put (m : Keyed β) (key : String) (b : β) : Keyed β := ⟨putEntry key b m.entries⟩

/-- Drops a key. -/
def erase (m : Keyed β) (key : String) : Keyed β := ⟨dropEntry key m.entries⟩

/-- The keys, oldest first. -/
def keys (m : Keyed β) : List String := m.entries.map Prod.fst

/-- The number of keys. -/
def size (m : Keyed β) : Nat := m.entries.length

/-- Whether a key has a value. -/
def contains (m : Keyed β) (key : String) : Bool := (m.find? key).isSome

@[simp] theorem find?_empty (key : String) : (empty : Keyed β).find? key = none := rfl

theorem findEntry_putEntry (key other : String) (b : β) (es : List (String × β)) :
    findEntry other (putEntry key b es) = if other = key then some b else findEntry other es := by
  induction es with
  | nil => simp [putEntry, findEntry]
  | cons e rest ih =>
    by_cases hk : key = e.1
    · by_cases h : other = key <;> simp_all [putEntry, findEntry]
    · by_cases h : other = e.1
      · have : other ≠ key := fun hc => hk (hc ▸ h)
        simp_all [putEntry, findEntry]
      · simp_all [putEntry, findEntry]

theorem findEntry_dropEntry (key other : String) (es : List (String × β)) :
    findEntry other (dropEntry key es) = if other = key then none else findEntry other es := by
  induction es with
  | nil => simp [dropEntry, findEntry]
  | cons e rest ih =>
    by_cases hk : key = e.1
    · by_cases h : other = key <;> simp_all [dropEntry, findEntry]
    · by_cases h : other = e.1
      · have : other ≠ key := fun hc => hk (hc ▸ h)
        simp_all [dropEntry, findEntry]
      · simp_all [dropEntry, findEntry]

@[simp] theorem find?_put (m : Keyed β) (key other : String) (b : β) :
    (m.put key b).find? other = if other = key then some b else m.find? other :=
  findEntry_putEntry key other b m.entries

@[simp] theorem find?_erase (m : Keyed β) (key other : String) :
    (m.erase key).find? other = if other = key then none else m.find? other :=
  findEntry_dropEntry key other m.entries

end Keyed
end BlueprintControl
