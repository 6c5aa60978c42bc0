import BlueprintControl.Controller.Run

/-!
# Runs in time

A run in which time stands still while there is something to do, and then moves on to the next
thing that is due. Timers fire at whole milliseconds. At one moment timers fire first, then the
waiting triggers are handled, and then passes end.

How a pass is done and how time is spent is left to a `Pace`, so that the same run can go by the
clock on the wall or by one that is merely moved on.

## Main definitions

* `PassPlan`: how long a pass takes and how it ends.
* `Pace`: how passes are done and time is spent.
* `TimedRun`: the controller and the passes at work.
* `TimedRun.happen`: one happening; a pass that is started gets its plan.
* `TimedRun.next?`: what happens next, up to a moment.
* `TimedRun.advance`: all that happens up to a moment.
-/
namespace BlueprintControl

/-- How a pass goes on after it is started. -/
structure PassPlan where
  takes : Span
  /-- The report at its end; a pass without one breaks off. -/
  report : Option Report

/-- How passes are done and time is spent. -/
structure Pace (m : Type → Type) where
  /-- Plans a pass that is started. -/
  plan : String → Moment → m PassPlan
  /-- Waits for a moment, and tells the moment that it is then. -/
  wait : Moment → m Moment

/-- A pass at work. -/
structure PassAtWork where
  key : String
  /-- When it ends, unless that is beyond the horizon. -/
  due : Option Moment
  report : Option Report

/-- A run in time. -/
structure TimedRun where
  controller : Controller
  passes : List PassAtWork

/-- The first whole millisecond at which a moment has been reached. -/
def Moment.wholeMilli (m : Moment) : Moment := ⟨(m.nanos + 999999) / 1000000 * 1000000⟩

namespace TimedRun

/-- Nothing has happened yet. -/
def initial (window : Span) (backoff : Backoff) : TimedRun := ⟨.initial window backoff, []⟩

/-- The earliest of the items that have a moment; of equal moments the first item. -/
def earliest {α : Type} (when? : α → Option Moment) (items : List α) : Option (α × Moment) :=
  items.foldl (fun best a => match when? a, best with
    | none, _ => best
    | some m, none => some (a, m)
    | some m, some (b, n) => if m.nanos < n.nanos then some (a, m) else some (b, n)) none

/-- What happens next. -/
inductive Next where
  | fires (t : Timer)
  | handles
  | ends (p : PassAtWork)
  | waits (m : Moment)

/-- The earlier of two moments that may not be there. -/
def sooner : Option Moment → Option Moment → Option Moment
  | some a, some b => some (if b.nanos < a.nanos then b else a)
  | some a, none => some a
  | none, b => b

/-- The first timer that fires. -/
def dueTimer (v : TimedRun) : Option (Timer × Moment) :=
  earliest (fun t => some t.deadline.wholeMilli) v.controller.timers

/-- The first pass that ends. -/
def duePass (v : TimedRun) : Option (PassAtWork × Moment) :=
  earliest (fun p => p.due) v.passes

/-- The moment at which something is due, while no trigger waits. -/
def due? (v : TimedRun) : Option Moment :=
  sooner (v.dueTimer.map Prod.snd) (v.duePass.map Prod.snd)

/-- What happens next, if it happens up to a moment. -/
def next? (v : TimedRun) (target : Moment) : Option Next :=
  let now := v.controller.now
  let ready {α : Type} (o : Option (α × Moment)) : Option α :=
    o.bind fun (a, m) => if now.reached m then some a else none
  match ready v.dueTimer with
  | some t => some (.fires t)
  | none =>
    if !v.controller.queue.isEmpty then some .handles
    else match ready v.duePass with
      | some p => some (.ends p)
      | none => match v.due? with
        | some m => if target.reached m then some (.waits m) else none
        | none => none

variable {m : Type → Type} [Monad m] (p : Pace m)

/-- Lets something happen. A pass that is started gets its plan. -/
def happen (v : TimedRun) (h : Happening) : m TimedRun := do
  let r := v.controller.step h
  match r.started with
  | none => return { v with controller := r.controller }
  | some key =>
    let plan ← p.plan key v.controller.now
    return ⟨r.controller,
      v.passes ++ [⟨key, v.controller.now.add? plan.takes, plan.report⟩]⟩

/-- Lets a pass end. -/
def finish (v : TimedRun) (pass : PassAtWork) : m TimedRun :=
  happen p { v with passes := v.passes.filter fun q => q.key != pass.key }
    (match pass.report with
      | some r => .ended pass.key r
      | none => .broke pass.key)

/-- Waits for a moment. -/
def rest (v : TimedRun) (moment : Moment) : m TimedRun := do
  happen p v (.elapsed (← p.wait moment))

/-- All that happens up to a moment, in no more than a number of happenings. -/
def advance (v : TimedRun) (target : Moment) : Nat → m TimedRun
  | 0 => return v
  | fuel + 1 => do
    match v.next? target with
    | none => rest p v target
    | some next =>
      let v ← match next with
        | .fires t => happen p v (.fired t.number)
        | .handles => happen p v .handled
        | .ends pass => finish p v pass
        | .waits moment => rest p v moment
      v.advance target fuel

end TimedRun
end BlueprintControl
