import BlueprintControl.Keyed
import BlueprintControl.Time.Span

/-!
# Backoff of repeated failures

The delay before a retry doubles with every failure in a row, from a base up to a maximum. The
factor and the number of failures are kept in 32 bits.

## Main definitions

* `Backoff.next`: records a failure of a key and gives the delay before its retry.
* `Backoff.reset`: forgets the failures of a key.
-/
namespace BlueprintControl

/-- The delays of failing keys. -/
structure Backoff where
  base : Span
  longest : Span
  counts : Keyed Nat

namespace Backoff

/-- Largest factor, and largest number of failures that is remembered. -/
def ceiling : Nat := UInt32.size - 1

/-- A backoff without failures. -/
def make (base longest : Span) : Backoff := ⟨base, longest, .empty⟩

/-- Half a second, doubled up to five minutes. -/
def standard : Backoff := make (.ofMillis 500) (.ofSeconds 300)

instance : Inhabited Backoff := ⟨standard⟩

/-- How many failures in a row a key has had. -/
def failures (b : Backoff) (key : String) : Nat := (b.counts.find? key).getD 0

/-- Two to the number of failures, as far as 32 bits go. -/
def factor (failures : Nat) : Nat := if failures < 32 then Nat.pow 2 failures else ceiling

/-- The delay after that many failures. -/
def delay (b : Backoff) (failures : Nat) : Span :=
  match b.base.mul? (factor failures) with
  | some d => d.min b.longest
  | none => b.longest

/-- Records a failure and gives the delay before the retry. -/
def next (b : Backoff) (key : String) : Span × Backoff :=
  let n := b.failures key
  (b.delay n, { b with counts := b.counts.put key (min (n + 1) ceiling) })

/-- The delays of a number of failures in a row. -/
def delays (b : Backoff) (key : String) : Nat → List Span × Backoff
  | 0 => ([], b)
  | n + 1 =>
    let (d, b) := b.next key
    let (rest, b) := b.delays key n
    (d :: rest, b)

/-- Forgets the failures of a key. -/
def reset (b : Backoff) (key : String) : Backoff := { b with counts := b.counts.erase key }

@[simp] theorem failures_next (b : Backoff) (key other : String) :
    (b.next key).2.failures other =
      if other = key then min (b.failures key + 1) ceiling else b.failures other := by
  by_cases h : other = key <;> simp [next, failures, h]

@[simp] theorem failures_reset (b : Backoff) (key other : String) :
    (b.reset key).failures other = if other = key then 0 else b.failures other := by
  by_cases h : other = key <;> simp [reset, failures, h]

end Backoff
end BlueprintControl
