import BlueprintControl.Keyed
import BlueprintControl.Time.Moment

/-!
# Debouncing

Of a burst of notifications the first is admitted and opens a window. Those that come within the
window are refused but leave a mark, so that one more pass can follow once the window closes.
A window whose end lies beyond the horizon never closes.

## Main definitions

* `Gate`: when the next notification may be admitted.
* `Debouncer.offer`: admits or marks a notification.
* `Debouncer.collect`: takes the mark away and tells how long the window stays closed.
* `DebounceRegistry`: one debouncer for each key, created when the key is first offered.
-/
namespace BlueprintControl

/-- When the next notification may be admitted. -/
inductive Gate where
  | opened
  | closedUntil (m : Moment)
  /-- The window ends beyond the horizon. -/
  | closed
  deriving DecidableEq

namespace Gate

/-- Whether a notification may pass. -/
def isOpen (g : Gate) (now : Moment) : Bool := match g with
  | .opened => true
  | .closedUntil m => now.reached m
  | .closed => false

/-- The gate behind an admitted notification. -/
def behind (now : Moment) (window : Span) : Gate := match now.add? window with
  | some m => .closedUntil m
  | none => .closed

/-- How long until the gate opens. -/
def remaining (g : Gate) (now : Moment) : Span := match g with
  | .opened => .zero
  | .closedUntil m => now.timeTo m
  | .closed => .longest

end Gate

/-- The gate of one key and whether a notification has been refused. -/
structure Debouncer where
  gate : Gate
  pending : Bool
  deriving DecidableEq

namespace Debouncer

/-- Before the first notification. -/
def initial : Debouncer := ⟨.opened, false⟩

instance : Inhabited Debouncer := ⟨initial⟩

/-- Admits a notification, or refuses it and leaves a mark. -/
def offer (d : Debouncer) (now : Moment) (window : Span) : Bool × Debouncer :=
  if d.gate.isOpen now then (true, ⟨.behind now window, false⟩) else (false, ⟨d.gate, true⟩)

/-- Takes the mark away: whether there was one, and how long the window stays closed. -/
def collect (d : Debouncer) (now : Moment) : (Bool × Span) × Debouncer :=
  if d.pending then ((true, d.gate.remaining now), ⟨d.gate, false⟩) else ((false, .zero), d)

end Debouncer

/-- The debouncers of all keys that have been offered a notification. -/
structure DebounceRegistry where
  window : Span
  debouncers : Keyed Debouncer

namespace DebounceRegistry

/-- No keys yet. -/
def make (window : Span) : DebounceRegistry := ⟨window, .empty⟩

instance : Inhabited DebounceRegistry := ⟨make .zero⟩

/-- The debouncer of a key. -/
def debouncer (r : DebounceRegistry) (key : String) : Debouncer :=
  (r.debouncers.find? key).getD .initial

/-- Offers a notification with a window of its own. -/
def offerWithin (r : DebounceRegistry) (key : String) (now : Moment) (window : Span) :
    Bool × DebounceRegistry :=
  let (admitted, d) := (r.debouncer key).offer now window
  (admitted, { r with debouncers := r.debouncers.put key d })

/-- Offers a notification with the window of the registry. -/
def offer (r : DebounceRegistry) (key : String) (now : Moment) : Bool × DebounceRegistry :=
  r.offerWithin key now r.window

/-- Takes the mark of a key away; a key that was never offered anything has none. -/
def collect (r : DebounceRegistry) (key : String) (now : Moment) :
    (Bool × Span) × DebounceRegistry :=
  match r.debouncers.find? key with
  | none => ((false, .zero), r)
  | some d =>
    let (answer, d) := d.collect now
    (answer, { r with debouncers := r.debouncers.put key d })

/-- Puts the debouncer of a key back to its start. -/
def reset (r : DebounceRegistry) (key : String) : DebounceRegistry :=
  match r.debouncers.find? key with
  | none => r
  | some _ => { r with debouncers := r.debouncers.put key .initial }

/-- The number of keys. -/
def size (r : DebounceRegistry) : Nat := r.debouncers.size

end DebounceRegistry
end BlueprintControl
