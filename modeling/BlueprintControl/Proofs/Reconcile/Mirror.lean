import BlueprintControl.Reconcile.Call
import BlueprintControl.Reconcile.Pass

/-!
# Keeping the calls changes nothing

A pass that keeps its calls does what the pass does that does not keep them. A task in a world
mirrors a task in a view of this world if both come to the same result and to the same view.
Tasks that are built in the same way from tasks that mirror each other mirror each other.

## Main definitions

* `Task.Mirrors`: the two tasks do the same, as far as the view goes.

## Main statements

* `Collaborators.mirrors_runPass`: result and world of a pass that keeps its calls.
-/
namespace BlueprintControl

namespace Task

variable {σ τ α β : Type}

/-- The first task does in its world what the second one does in the view of it. -/
def Mirrors (view : τ → σ) (t' : Task τ α) (t : Task σ α) : Prop :=
  ∀ w, t.run (view w) = ((t'.run w).1, view (t'.run w).2)

variable {view : τ → σ}

theorem mirrors_ofExcept (r : Except Failure α) : Mirrors view (ofExcept r) (ofExcept r) :=
  fun _ => rfl

theorem mirrors_pure (a : α) : Mirrors view (pure a) (pure a) := fun _ => rfl

theorem mirrors_fail (f : Failure) : Mirrors view (fail f : Task τ α) (fail f) := fun _ => rfl

theorem Mirrors.attempt {t' : Task τ α} {t : Task σ α} (h : Mirrors view t' t) :
    Mirrors view t'.attempt t.attempt := fun w => by simp [h w]

theorem Mirrors.bind {t' : Task τ α} {t : Task σ α} {g' : α → Task τ β} {g : α → Task σ β}
    (h : Mirrors view t' t) (hg : ∀ a, Mirrors view (g' a) (g a)) :
    Mirrors view (t' >>= g') (t >>= g) := by
  intro w
  rw [run_bind, run_bind, h w]
  rcases t'.run w with ⟨r, w'⟩
  cases r with
  | ok a => exact hg a w'
  | error f => rfl

theorem Mirrors.ite {p : Prop} [Decidable p] {t' u' : Task τ α} {t u : Task σ α}
    (ht : Mirrors view t' t) (hu : Mirrors view u' u) :
    Mirrors view (if p then t' else u') (if p then t else u) := by
  split
  · exact ht
  · exact hu

theorem mirrors_world_bind {g' : τ → Task τ α} {g : σ → Task σ α}
    (h : ∀ w, Mirrors view (g' w) (g (view w))) :
    Mirrors view (world >>= g') (world >>= g) :=
  fun w => h w w

end Task

namespace Step

variable {σ α : Type}

/-- What is under way, without the calls. -/
def view (u : Underway (Traced σ)) : Underway σ := ⟨u.blueprint, u.world.world⟩

/-- The step does the same whether or not the calls are kept. -/
abbrev Mirrors (t' : Step (Traced σ) α) (t : Step σ α) : Prop := Task.Mirrors view t' t

variable {c : Collaborators σ}

theorem mirrors_ask {question' : Blueprint → Task (Traced σ) α} {question : Blueprint → Task σ α}
    (h : ∀ b, Task.Mirrors Traced.world (question' b) (question b)) :
    Mirrors (ask question') (ask question) :=
  fun u => by simp [ask, view, h u.blueprint u.world]

theorem mirrors_revise (f : Blueprint → Blueprint) :
    Mirrors (revise f : Step (Traced σ) Unit) (revise f) :=
  fun _ => rfl

theorem mirrors_transition (f : Blueprint → Stamp → Transition) :
    Mirrors (transition c.traced f) (transition c f) :=
  fun _ => rfl

theorem mirrors_save : Mirrors (save c.traced) (save c) :=
  (mirrors_ask fun _ _ => rfl).bind fun _ => mirrors_revise _

/-- What storing comes to when the calls are kept. -/
theorem run_save_of_ok {u : Underway (Traced σ)} {b' : Blueprint} {s' : σ}
    (h : (c.repository.update u.blueprint).run u.world.world = (.ok b', s')) :
    (save c.traced).run u
      = (.ok (), ⟨b', ⟨s', u.world.calls ++ [.update u.blueprint (.ok b')]⟩⟩) := by
  simp [save, ask, revise, Collaborators.traced, Task.run_bind, h]

theorem run_save_of_error {u : Underway (Traced σ)} {f : Failure} {s' : σ}
    (h : (c.repository.update u.blueprint).run u.world.world = (.error f, s')) :
    (save c.traced).run u
      = (.error f, ⟨u.blueprint, ⟨s', u.world.calls ++ [.update u.blueprint (.error f)]⟩⟩) := by
  simp [save, ask, revise, Collaborators.traced, Task.run_bind, h]

theorem mirrors_refuse (f : Failure) :
    Mirrors (save c.traced >>= fun _ => (Task.fail f : Step _ α))
      (save c >>= fun _ => (Task.fail f : Step _ α)) :=
  mirrors_save.bind fun _ => Task.mirrors_fail f

theorem mirrors_evaluateAxes (error : Option String) :
    Mirrors (evaluateAxes c.traced error) (evaluateAxes c error) :=
  (mirrors_transition _).bind fun _ => (mirrors_transition _).bind fun _ => Task.mirrors_pure ()

theorem mirrors_determine : Mirrors (determine c.traced) (determine c) := by
  refine (mirrors_ask fun _ _ => rfl).attempt.bind fun answer => ?_
  cases answer with
  | ok d => exact mirrors_revise _
  | error f => exact (mirrors_evaluateAxes _).bind fun _ => mirrors_refuse f

theorem mirrors_checkActions (policy : ActionPolicy) :
    Mirrors (checkActions c.traced policy) (checkActions c policy) := by
  refine Task.mirrors_world_bind fun u => ?_
  cases h : policy.validate u.blueprint.diff u.blueprint.config.allowNamespaceSwitch with
  | ok _ =>
    simp only [view, h]
    exact Task.mirrors_pure ()
  | error f =>
    simp only [view, h]
    exact (mirrors_revise _).bind fun _ => mirrors_refuse f

theorem mirrors_checkHealth : Mirrors (checkHealth c.traced) (checkHealth c) := by
  refine (mirrors_ask fun _ _ => rfl).attempt.bind fun answer => ?_
  cases answer with
  | ok _ => exact Task.mirrors_pure ()
  | error f =>
    by_cases h : f.kind = .unhealthy
    · simp only [h, if_true]
      exact (mirrors_revise _).bind fun _ => mirrors_refuse f
    · simp only [h, if_false]
      exact Task.mirrors_fail f

theorem mirrors_apply (axis : Axis) : Mirrors (apply c.traced axis) (apply c axis) := by
  refine (mirrors_ask fun b => ?_).attempt.bind fun answer =>
    (mirrors_transition _).bind fun changed => Task.mirrors_world_bind fun u => ?_
  · cases axis <;> exact fun _ => rfl
  · exact .ite (mirrors_save.bind fun _ => Task.mirrors_ofExcept answer)
      (Task.mirrors_ofExcept answer)

theorem mirrors_applyConfig : Mirrors (applyConfig c.traced) (applyConfig c) := by
  refine Task.mirrors_world_bind fun u => .ite ?_ ?_
  · exact (mirrors_transition _).bind fun _ => Task.mirrors_pure ()
  · refine (mirrors_transition _).bind fun _ => mirrors_save.bind fun _ => ?_
    refine (mirrors_ask fun _ _ => rfl).attempt.bind fun answer => ?_
    cases answer with
    | ok _ => exact (mirrors_transition _).bind fun _ => mirrors_save
    | error f => exact (mirrors_transition _).bind fun _ => mirrors_refuse f

theorem mirrors_applyAll : Mirrors (applyAll c.traced) (applyAll c) := by
  refine mirrors_checkHealth.bind fun _ => Task.mirrors_world_bind fun u => ?_
  refine (mirrors_apply _).bind fun _ => (mirrors_apply _).bind fun _ =>
    mirrors_applyConfig.bind fun _ => .ite ?_ ?_
  · exact mirrors_refuse appliedChanges
  · exact (mirrors_transition _).bind fun _ => mirrors_save.bind fun _ => Task.mirrors_pure _

theorem mirrors_proceed (policy : ActionPolicy) :
    Mirrors (proceed c.traced policy) (proceed c policy) := by
  refine mirrors_determine.bind fun _ => (mirrors_checkActions policy).bind fun _ =>
    (mirrors_evaluateAxes none).bind fun _ => Task.mirrors_world_bind fun u =>
      .ite ?_ ?_
  · exact mirrors_save.bind fun _ => Task.mirrors_pure _
  · exact mirrors_applyAll

end Step

namespace Collaborators

variable {σ : Type} (c : Collaborators σ)

theorem mirrors_loadSingle (id : String) :
    Task.Mirrors Traced.world (c.traced.loadSingle id) (c.loadSingle id) :=
  Task.Mirrors.bind (fun _ => rfl) fun _ => .ite (Task.mirrors_fail _) fun _ => rfl

theorem loadSingle_of_traced {c : Collaborators σ} {id : String} {s s' : σ}
    {calls calls' : List Call} {answer : Except Failure Blueprint}
    (h : (c.traced.loadSingle id).run ⟨s, calls⟩ = (answer, ⟨s', calls'⟩)) :
    (c.loadSingle id).run s = (answer, s') := by
  have hmirror : (c.loadSingle id).run s = _ := c.mirrors_loadSingle id ⟨s, calls⟩
  rwa [h] at hmirror

theorem traced_loadSingle {c : Collaborators σ} {id : String} {ids : List String} {b : Blueprint}
    {s s₀ s' : σ} (hlist : c.repository.list.run s = (.ok ids, s₀)) (hone : ids.length ≤ 1)
    (hload : (c.repository.load id).run s₀ = (.ok b, s')) :
    (c.traced.loadSingle id).run ⟨s, []⟩ = (.ok b, ⟨s', [.list (.ok ids), .load id (.ok b)]⟩) := by
  have hfew : ¬ 1 < ids.length := Nat.not_lt.mpr hone
  simp [loadSingle, traced, Task.run_bind, hlist, hload, hfew]

/-- A pass that keeps its calls comes to the same result, and to the same world. -/
theorem mirrors_runPass (policy : ActionPolicy) (id : String) :
    Task.Mirrors Traced.world (c.traced.runPass policy id) (c.runPass policy id) := by
  refine (c.mirrors_loadSingle id).bind fun b w => ?_
  have hproceed : (Step.proceed c policy).run ⟨b, w.world⟩ = _ :=
    Step.mirrors_proceed policy ⟨b, w⟩
  simp only [Step.startingWith, hproceed]
  rfl

theorem fst_traced_runPass (policy : ActionPolicy) (id : String) (s : σ) :
    ((c.traced.runPass policy id).run ⟨s, []⟩).1 = ((c.runPass policy id).run s).1 :=
  (congrArg Prod.fst (c.mirrors_runPass policy id ⟨s, []⟩)).symm

end Collaborators
end BlueprintControl
