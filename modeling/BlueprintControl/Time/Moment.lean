import BlueprintControl.Time.Span

/-!
# Moments of the monotonic clock

A `Moment` counts nanoseconds since the clock was started. Moments stop at a horizon of
2^63 seconds: the end of a window that lies beyond it is no moment at all, and callers have to
say what such a window means to them.

## Main definitions

* `Moment.add?`: the moment a span later, if there is one.
* `Moment.timeTo`: the span left until a later moment, zero if it has passed.
-/
namespace BlueprintControl

/-- A point of the monotonic clock, in nanoseconds since its start. -/
structure Moment where
  /-- Nanoseconds since the start. -/
  nanos : Nat
  deriving DecidableEq, Inhabited

namespace Moment

/-- The first number of nanoseconds that is past every moment. -/
def horizon : Nat := Nat.pow 2 63 * nanosPerSecond

/-- The start of the clock. -/
def start : Moment := ⟨0⟩

/-- The moment a span later, unless it lies beyond the horizon. -/
def add? (m : Moment) (s : Span) : Option Moment :=
  if m.nanos + s.nanos < horizon then some ⟨m.nanos + s.nanos⟩ else none

/-- Whether a moment has been reached. -/
def reached (now m : Moment) : Bool := decide (m.nanos ≤ now.nanos)

/-- The time left until a moment, zero once it is reached. -/
def timeTo (now m : Moment) : Span :=
  (Span.ofNanos? (m.nanos - now.nanos)).getD Span.longest

@[simp] theorem reached_iff (now m : Moment) : reached now m = true ↔ m.nanos ≤ now.nanos := by
  simp [reached]

theorem nanos_of_add?_eq_some {m e : Moment} {s : Span} (h : m.add? s = some e) :
    e.nanos = m.nanos + s.nanos := by
  unfold add? at h
  split at h
  · cases h; rfl
  · cases h

theorem lt_horizon_of_add?_eq_some {m e : Moment} {s : Span} (h : m.add? s = some e) :
    e.nanos < horizon := by
  unfold add? at h
  split at h
  case isTrue hlt => cases h; exact hlt
  case isFalse => cases h

theorem exists_add?_eq_some {m : Moment} {s : Span} (h : m.nanos + s.nanos < horizon) :
    ∃ e, m.add? s = some e := ⟨_, if_pos h⟩

/-- The time left until a moment of the clock is never cut off. -/
theorem nanos_timeTo {m : Moment} (h : m.nanos < horizon) (now : Moment) :
    (now.timeTo m).nanos = m.nanos - now.nanos := by
  have hlimit : m.nanos - now.nanos < Span.limit := by
    refine Nat.lt_of_le_of_lt (Nat.sub_le _ _) (Nat.lt_trans h ?_)
    decide
  rw [timeTo, Span.ofNanos?_of_lt hlimit]
  rfl

end Moment
end BlueprintControl
