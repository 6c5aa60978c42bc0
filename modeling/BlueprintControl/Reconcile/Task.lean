import BlueprintControl.Domain.Failure

/-!
# Tasks

A task reads and changes a world, and ends with a result or with a failure. The changes that were
made before a failure stay.

## Main definitions

* `Task`, `Task.fail`, `Task.attempt`: tasks, the one that fails, and a task whose failure is data.
* `Task.zoom`: a task on a part of a larger world.
-/
namespace BlueprintControl

/-- A task on a world of type `σ`. -/
structure Task (σ α : Type) where
  run : σ → Except Failure α × σ

namespace Task

variable {σ τ α β : Type}

@[ext] theorem ext {p q : Task σ α} (h : ∀ s, p.run s = q.run s) : p = q := by
  cases p; cases q; exact congrArg Task.mk (funext h)

/-- Ends at once. -/
protected def pure (a : α) : Task σ α := ⟨fun s => (.ok a, s)⟩

/-- Goes on with the result, unless there was a failure. -/
protected def bind (t : Task σ α) (f : α → Task σ β) : Task σ β :=
  ⟨fun s => match t.run s with
    | (.ok a, s) => (f a).run s
    | (.error e, s) => (.error e, s)⟩

instance : Monad (Task σ) where
  pure := Task.pure
  bind := Task.bind

/-- Ends with a failure. -/
def fail (e : Failure) : Task σ α := ⟨fun s => (.error e, s)⟩

/-- Ends with a result that is already there. -/
def ofExcept (r : Except Failure α) : Task σ α := ⟨fun s => (r, s)⟩

/-- Runs a task; its failure is part of the result. -/
def attempt (t : Task σ α) : Task σ (Except Failure α) :=
  ⟨fun s => let (r, s) := t.run s; (.ok r, s)⟩

/-- A task that cannot fail. -/
def always (f : σ → α × σ) : Task σ α := ⟨fun s => let (a, s) := f s; (.ok a, s)⟩

/-- The world. -/
def world : Task σ σ := ⟨fun s => (.ok s, s)⟩

/-- Changes the world. -/
def change (f : σ → σ) : Task σ Unit := ⟨fun s => (.ok (), f s)⟩

/-- A task on a part of the world. -/
def zoom (view : τ → σ) (put : σ → τ → τ) (t : Task σ α) : Task τ α :=
  ⟨fun w => let (r, s) := t.run (view w); (r, put s w)⟩

@[simp] theorem run_pure (a : α) (s : σ) : (pure a : Task σ α).run s = (.ok a, s) := rfl

theorem run_bind (t : Task σ α) (f : α → Task σ β) (s : σ) :
    (t >>= f).run s = match t.run s with
      | (.ok a, s) => (f a).run s
      | (.error e, s) => (.error e, s) := rfl

theorem run_bind_ok {t : Task σ α} {s s' : σ} {a : α} (h : t.run s = (.ok a, s'))
    (f : α → Task σ β) : (t >>= f).run s = (f a).run s' := by simp [run_bind, h]

theorem run_bind_error {t : Task σ α} {s s' : σ} {e : Failure} (h : t.run s = (.error e, s'))
    (f : α → Task σ β) : (t >>= f).run s = (.error e, s') := by simp [run_bind, h]

@[simp] theorem run_fail (e : Failure) (s : σ) : (fail e : Task σ α).run s = (.error e, s) := rfl

@[simp] theorem run_ofExcept (r : Except Failure α) (s : σ) : (ofExcept r).run s = (r, s) := rfl

@[simp] theorem run_attempt (t : Task σ α) (s : σ) :
    t.attempt.run s = (.ok (t.run s).1, (t.run s).2) := rfl

@[simp] theorem run_always (f : σ → α × σ) (s : σ) :
    (always f).run s = (.ok (f s).1, (f s).2) := rfl

@[simp] theorem run_world (s : σ) : world.run s = (.ok s, s) := rfl

@[simp] theorem run_change (f : σ → σ) (s : σ) : (change f).run s = (.ok (), f s) := rfl

@[simp] theorem run_zoom (view : τ → σ) (put : σ → τ → τ) (t : Task σ α) (w : τ) :
    (zoom view put t).run w = ((t.run (view w)).1, put (t.run (view w)).2 w) := rfl

end Task
end BlueprintControl
