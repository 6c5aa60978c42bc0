import BlueprintControl.Controller.Summary
import BlueprintControl.Controller.Trigger
import BlueprintControl.Scheduling.Backoff
import BlueprintControl.Scheduling.Debounce

/-!
# The controller

The controller runs passes. A notification has to get past the debouncer; a requeue does not. No
blueprint has two passes at once: a trigger that comes while its pass is in flight marks the
blueprint, and the pass runs again once it ends. A blueprint has one entry for a timer, and the
earlier deadline wins.

The state holds the books of the controller and what happens around it: the triggers that wait,
the passes that are at work, the timers that are armed.

## Main definitions

* `Controller`: the state.
* `Controller.handle`: what a trigger does.
* `Controller.finish`: what the end of a pass does.
* `Controller.schedule`: arms the timer of a blueprint.
-/
namespace BlueprintControl

/-- A timer that will ask for a pass. -/
structure Timer where
  number : Nat
  key : String
  deadline : Moment
  deriving DecidableEq

/-- A controller and what goes on around it. -/
structure Controller where
  now : Moment
  /-- Triggers that wait to be handled, oldest first. -/
  queue : List Trigger
  /-- The blueprints of the passes that are at work, or have ended unnoticed. -/
  working : List String
  /-- The timers that are armed. -/
  timers : List Timer
  /-- The number of the next timer. -/
  issued : Nat
  /-- The blueprints that are taken to have a pass. -/
  inFlight : List String
  /-- The blueprints whose pass has to run again. -/
  dirty : List String
  /-- The timer of each blueprint. -/
  scheduled : Keyed Timer
  debounce : DebounceRegistry
  backoff : Backoff
  summary : Summary

/-- A controller after something happened, and the blueprint whose pass has been started. -/
structure Reaction where
  controller : Controller
  started : Option String

namespace Controller

/-- A controller at the start of the clock. -/
def initial (window : Span) (backoff : Backoff) : Controller :=
  ⟨.start, [], [], [], 0, [], [], .empty, .make window, backoff, .initial⟩

/-- Puts a trigger at the end of the queue. -/
def send (c : Controller) (t : Trigger) : Controller := { c with queue := c.queue ++ [t] }

/-- Disarms a timer. -/
def disarm (c : Controller) (number : Nat) : Controller :=
  { c with timers := c.timers.filter fun t => t.number != number }

/-- Arms a timer for a blueprint, which becomes the timer of the blueprint. -/
def arm (c : Controller) (key : String) (deadline : Moment) : Controller :=
  let t : Timer := ⟨c.issued, key, deadline⟩
  { c with
    timers := c.timers ++ [t]
    issued := c.issued + 1
    scheduled := c.scheduled.put key t }

/-- Sees to it that a blueprint is asked for after a delay, unless its timer is due before. A
delay that ends beyond the horizon arms nothing. -/
def schedule (c : Controller) (key : String) (delay : Span) : Controller :=
  match c.now.add? delay with
  | none => c
  | some deadline =>
    match c.scheduled.find? key with
    | some t =>
      if t.deadline.nanos ≤ deadline.nanos then c else (c.disarm t.number).arm key deadline
    | none => c.arm key deadline

/-- Starts a pass. -/
def start (c : Controller) (key : String) : Reaction :=
  ⟨{ c with working := c.working ++ [key], inFlight := c.inFlight.insert key }, some key⟩

/-- Starts a pass, or marks the blueprint if it has one. -/
def request (c : Controller) (key : String) : Reaction :=
  if c.inFlight.contains key then ⟨{ c with dirty := c.dirty.insert key }, none⟩ else c.start key

/-- Takes the mark of the debouncer. -/
def collect (c : Controller) (key : String) : (Bool × Span) × Controller :=
  let (answer, debounce) := c.debounce.collect key c.now
  (answer, { c with debounce := debounce })

/-- Remembers a refused notification. Without a pass in flight nothing else would, so a timer is
armed for the end of the window. -/
def refuse (c : Controller) (key : String) : Controller :=
  let c := { c with summary := c.summary.refused }
  if c.inFlight.contains key then c
  else
    let ((due, remaining), c) := c.collect key
    if due then c.schedule key remaining else c

/-- Handles a trigger. -/
def handle (c : Controller) : Trigger → Reaction
  | .notify key =>
    let (admitted, debounce) := c.debounce.offer key c.now
    let c := { c with debounce := debounce, summary := c.summary.notified }
    if admitted then c.request key else ⟨c.refuse key, none⟩
  | .requeue key => { c with scheduled := c.scheduled.erase key }.request key

/-- The delay after a decision, and the failures in a row. -/
def delayAfter (b : Backoff) (key : String) : Decision → Option Span × Backoff
  | .rest => (none, b.reset key)
  | .requeueAfter d => (some d, b.reset key)
  | .retry _ => let (d, b) := b.next key; (some d, b)

/-- The shorter of two delays that may not be there. -/
def shorter : Option Span → Option Span → Option Span
  | some a, some b => some (a.min b)
  | some a, none => some a
  | none, b => b

/-- Asks for the next pass of a blueprint, after the delay that was decided or at the end of the
window if a notification was refused meanwhile. -/
def follow (c : Controller) (key : String) (delay : Option Span) : Controller :=
  let ((due, remaining), c) := c.collect key
  match shorter delay (if due then some remaining else none) with
  | some d => c.schedule key d
  | none => c

/-- Takes note of the end of a pass. A marked blueprint has its next pass at once. -/
def finish (c : Controller) (key : String) (r : Report) : Reaction :=
  let (delay, backoff) := delayAfter c.backoff key r.decision
  let c := { c with
    working := c.working.erase key
    inFlight := c.inFlight.filter fun k => k != key
    backoff := backoff
    summary := c.summary.finished key r }
  if c.dirty.contains key then
    { c with dirty := c.dirty.filter fun k => k != key }.start key
  else ⟨c.follow key delay, none⟩

/-- A pass has broken off. Nothing is known of it but that it is gone. -/
def lose (c : Controller) (key : String) : Controller :=
  { c with working := c.working.erase key }

/-- A timer has fired: it is armed no longer, and it asks for a pass. -/
def fire (c : Controller) (t : Timer) : Controller :=
  (c.disarm t.number).send (.requeue t.key)

end Controller
end BlueprintControl
