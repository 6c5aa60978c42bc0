import BlueprintControl.Controller.State

/-!
# Runs of the controller

A run is a list of happenings. What cannot happen at the moment does nothing, so that every list
is a run: a timer fires only once its deadline is reached, a pass ends only if it is at work, and
the clock does not go back.

## Main definitions

* `Happening`: what can happen.
* `Controller.step`: one happening.
* `Controller.run`: a list of them, with the passes they start.
-/
namespace BlueprintControl

/-- What can happen to a controller. -/
inductive Happening where
  /-- Somebody sends a trigger. -/
  | sent (t : Trigger)
  /-- The clock moves to a moment. -/
  | elapsed (now : Moment)
  /-- The timer with that number fires. -/
  | fired (number : Nat)
  /-- The controller handles the oldest trigger. -/
  | handled
  /-- The controller sees that a pass has ended. -/
  | ended (key : String) (report : Report)
  /-- The controller sees that a pass has broken off. -/
  | broke (key : String)

namespace Controller

/-- What a happening does. -/
def step (c : Controller) : Happening → Reaction
  | .sent t => ⟨c.send t, none⟩
  | .elapsed now => ⟨if c.now.nanos ≤ now.nanos then { c with now := now } else c, none⟩
  | .fired number =>
    match c.timers.find? fun t => t.number == number && c.now.reached t.deadline with
    | some t => ⟨c.fire t, none⟩
    | none => ⟨c, none⟩
  | .handled => match c.queue with
    | t :: rest => { c with queue := rest }.handle t
    | [] => ⟨c, none⟩
  | .ended key report => if c.working.contains key then c.finish key report else ⟨c, none⟩
  | .broke key => ⟨if c.working.contains key then c.lose key else c, none⟩

/-- A list of happenings: the controller afterwards, and the blueprints whose passes have been
started, in order. -/
def run (c : Controller) : List Happening → Controller × List String
  | [] => (c, [])
  | h :: rest =>
    let r := c.step h
    let (after, started) := r.controller.run rest
    (after, r.started.toList ++ started)

@[simp] theorem run_nil (c : Controller) : c.run [] = (c, []) := rfl

theorem run_cons (c : Controller) (h : Happening) (rest : List Happening) :
    c.run (h :: rest) = (((c.step h).controller.run rest).1,
      (c.step h).started.toList ++ ((c.step h).controller.run rest).2) := rfl

theorem run_append (c : Controller) (first second : List Happening) :
    c.run (first ++ second) = (((c.run first).1.run second).1,
      (c.run first).2 ++ ((c.run first).1.run second).2) := by
  induction first generalizing c with
  | nil => simp
  | cons h rest ih => simp [run_cons, ih, List.append_assoc]

end Controller
end BlueprintControl
