/-!
# Spans of time

A `Span` is a length of time in whole nanoseconds, at most 2^64 - 1 seconds and
999 999 999 nanoseconds. Sums and products that leave this range are refused rather
than cut off, so every delay that is reported has been computed exactly.

## Main definitions

* `Span`: a bounded number of nanoseconds.
* `Span.mul?`: multiplication by a factor, refused when it leaves the range.
-/
namespace BlueprintControl

/-- Nanoseconds in one second. -/
def nanosPerSecond : Nat := 1000000000

/-- The first number of nanoseconds that no span reaches. -/
def Span.limit : Nat := UInt64.size * nanosPerSecond

/-- A length of time in nanoseconds. -/
structure Span where
  /-- The whole length in nanoseconds. -/
  nanos : Nat
  nanos_lt : nanos < Span.limit
  deriving DecidableEq

namespace Span

@[ext] theorem ext {a b : Span} (h : a.nanos = b.nanos) : a = b := by
  cases a; cases b; cases h; rfl

/-- The span of no length. -/
def zero : Span := ⟨0, by decide⟩

/-- The longest span. -/
def longest : Span := ⟨limit - 1, by decide⟩

instance : Inhabited Span := ⟨zero⟩

/-- A span of that many nanoseconds, if it is in range. -/
def ofNanos? (n : Nat) : Option Span :=
  if h : n < limit then some ⟨n, h⟩ else none

/-- A whole number of seconds. -/
def ofSeconds (n : UInt64) : Span :=
  ⟨n.toNat * nanosPerSecond, Nat.mul_lt_mul_of_pos_right n.toNat_lt (by decide)⟩

/-- A whole number of milliseconds. -/
def ofMillis (n : UInt64) : Span :=
  ⟨n.toNat * 1000000, by have := n.toNat_lt; simp only [limit, nanosPerSecond, UInt64.size]; omega⟩

/-- Whole seconds of a span. -/
def seconds (s : Span) : Nat := s.nanos / nanosPerSecond

/-- Nanoseconds of a span past its last whole second. -/
def subsecond (s : Span) : Nat := s.nanos % nanosPerSecond

/-- Whole milliseconds of a span. -/
def millis (s : Span) : Nat := s.nanos / 1000000

/-- The span taken that many times, unless the product is out of range. -/
def mul? (s : Span) (factor : Nat) : Option Span := ofNanos? (s.nanos * factor)

/-- The shorter of two spans. -/
def min (a b : Span) : Span := if a.nanos ≤ b.nanos then a else b

@[simp] theorem nanos_zero : zero.nanos = 0 := rfl

@[simp] theorem nanos_ofSeconds (n : UInt64) :
    (ofSeconds n).nanos = n.toNat * nanosPerSecond := rfl

@[simp] theorem nanos_ofMillis (n : UInt64) : (ofMillis n).nanos = n.toNat * 1000000 := rfl

@[simp] theorem nanos_min (a b : Span) : (min a b).nanos = Nat.min a.nanos b.nanos := by
  simp only [min, Nat.min_def]; split <;> rfl

theorem ofNanos?_of_lt {n : Nat} (h : n < limit) : ofNanos? n = some ⟨n, h⟩ := by
  simp [ofNanos?, h]

theorem ofNanos?_of_le {n : Nat} (h : limit ≤ n) : ofNanos? n = none := by
  simp [ofNanos?, Nat.not_lt.mpr h]

end Span
end BlueprintControl
