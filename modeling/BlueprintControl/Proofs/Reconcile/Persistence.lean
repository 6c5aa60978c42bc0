import BlueprintControl.Proofs.Reconcile.Mirror
import BlueprintControl.Proofs.Store.Commits
import BlueprintControl.Reconcile.Stored

/-!
# A pass ends with storing its blueprint

Wherever a pass ends after it has loaded its blueprint, the last thing it has done is to store it,
unless the repository has failed. There is one exception: if the health of the ecosystem cannot be
told, the pass ends at once, and what it has evaluated before is lost.

## Main definitions

* `Step.IsSaved`: the blueprint is the one that the repository has just given back.
* `Step.Excused`: a call was answered after which a pass may end without storing.
* `Step.EndsSaved`, `Step.StopsSaved`: a step ends, or fails, with a blueprint that is saved.
* `Store.Holds`: a document holds the conditions and the state diff of a blueprint.
* `Collaborators.lastBlueprint?`: the blueprint that a pass ends with.

## Main statements

* `Step.endsSaved_proceed`: all steps after loading end with a blueprint that is saved.
* `Collaborators.saved_runPass`: so does every pass that has loaded its blueprint.
-/
namespace BlueprintControl

/-- The repository is asked. -/
def Call.isStorage : Call → Bool
  | .list _ | .load _ _ | .update _ _ => true
  | _ => false

/-- After such an answer a pass may end without storing: the repository has failed, or the health
of the ecosystem cannot be told. -/
inductive Call.Excuses : Call → Prop where
  | storage {call : Call} {f : Failure} (hs : call.isStorage = true)
      (hf : call.failure? = some f) : Excuses call
  | health {config : BlueprintConfig} {f : Failure} (hf : f.kind ≠ .unhealthy) :
      Excuses (.checkHealth config (.error f))

theorem Call.Excuses.failure?_ne_none {call : Call} (h : call.Excuses) : call.failure? ≠ none := by
  cases h with
  | storage hs hf => simp [hf]
  | health hf => exact Option.some_ne_none _

namespace Step

variable {σ α β : Type}

/-- The blueprint is the one that the repository has just given back. -/
def IsSaved (c : Collaborators σ) (u : Underway (Traced σ)) : Prop :=
  ∃ b s, (c.repository.update b).run s = (.ok u.blueprint, u.world.world)

/-- A call was answered after which a pass may end without storing. -/
def Excused (u : Underway (Traced σ)) : Prop := ∃ call ∈ u.world.calls, call.Excuses

/-- From there a step comes to a result that is none of these, or to a blueprint that is saved. -/
def SavedFrom (c : Collaborators σ) (P : Except Failure α → Prop) (t : Step (Traced σ) α)
    (u : Underway (Traced σ)) : Prop :=
  P (t.run u).1 → IsSaved c (t.run u).2 ∨ Excused (t.run u).2

/-- If a step comes to one of these results, it ends with a blueprint that is saved. -/
def SavedIf (c : Collaborators σ) (P : Except Failure α → Prop) (t : Step (Traced σ) α) : Prop :=
  ∀ u, SavedFrom c P t u

/-- However a step ends, it ends with a blueprint that is saved. -/
abbrev EndsSaved (c : Collaborators σ) (t : Step (Traced σ) α) : Prop :=
  SavedIf c (fun _ => True) t

/-- If a step fails, it ends with a blueprint that is saved. -/
abbrev StopsSaved (c : Collaborators σ) (t : Step (Traced σ) α) : Prop :=
  SavedIf c (fun r => ∃ f, r = .error f) t

variable {c : Collaborators σ} {P : Except Failure α → Prop}

/-! ## Steps made of steps -/

theorem EndsSaved.savedIf {t : Step (Traced σ) α} (h : EndsSaved c t) : SavedIf c P t :=
  fun u _ => h u trivial

theorem SavedIf.bind {P : Except Failure β → Prop} {t : Step (Traced σ) α}
    {g : α → Step (Traced σ) β} (ht : StopsSaved c t) (hg : ∀ a, SavedIf c P (g a)) :
    SavedIf c P (t >>= g) := by
  intro u
  have hstop := ht u
  unfold SavedFrom at hstop ⊢
  rcases hrun : t.run u with ⟨result, v⟩
  rw [hrun] at hstop
  cases result with
  | ok a =>
    rw [Task.run_bind_ok hrun]
    exact hg a v
  | error f =>
    rw [Task.run_bind_error hrun]
    exact fun _ => hstop ⟨f, rfl⟩

theorem SavedIf.ite {p : Prop} [Decidable p] {t t' : Step (Traced σ) α} (h : SavedIf c P t)
    (h' : SavedIf c P t') : SavedIf c P (if p then t else t') := by
  split
  · exact h
  · exact h'

/-- What is already decided changes nothing of the blueprint. -/
theorem EndsSaved.ofExcept {t : Step (Traced σ) α} (ht : EndsSaved c t)
    (g : α → Except Failure β) : EndsSaved c (t >>= fun a => Task.ofExcept (g a)) := by
  intro u _
  have hend := ht u trivial
  rcases hrun : t.run u with ⟨result, v⟩
  rw [hrun] at hend
  cases result with
  | ok a =>
    rw [Task.run_bind_ok hrun]
    exact hend
  | error f =>
    rw [Task.run_bind_error hrun]
    exact hend

/-- A transition happens at some time or other. -/
theorem savedIf_transition_bind {f : Blueprint → Stamp → Transition}
    {g : Bool → Step (Traced σ) α} (h : ∀ b now s calls,
      SavedFrom c P (g (f b now).changed) ⟨(f b now).blueprint, ⟨s, calls⟩⟩) :
    SavedIf c P (transition c.traced f >>= g) :=
  fun u => h u.blueprint (c.clock u.world.world).1 (c.clock u.world.world).2 u.world.calls

theorem savedFrom_world_bind {g : Underway (Traced σ) → Step (Traced σ) α}
    {u : Underway (Traced σ)} (h : SavedFrom c P (g u) u) : SavedFrom c P (Task.world >>= g) u := h

/-- A question whose failure is data leaves a call behind. -/
theorem savedIf_attempt_bind {question : Blueprint → Task σ α}
    {call : Blueprint → Except Failure α → Call} {g : Except Failure α → Step (Traced σ) β}
    {P : Except Failure β → Prop} (h : ∀ answer (u : Underway (Traced σ)),
      call u.blueprint answer ∈ u.world.calls → SavedFrom c P (g answer) u) :
    SavedIf c P (Task.attempt (ask fun b => (question b).traced (call b)) >>= g) := fun u =>
  h ((question u.blueprint).run u.world.world).1
    ⟨u.blueprint, ⟨((question u.blueprint).run u.world.world).2, u.world.calls ++ [_]⟩⟩
    (List.mem_append_right _ (List.mem_singleton_self _))

/-! ## Steps that do not fail -/

theorem stopsSaved_of_ok {t : Step (Traced σ) α} (h : ∀ u, ∃ a, (t.run u).1 = .ok a) :
    StopsSaved c t := by
  rintro u ⟨f, hf⟩
  obtain ⟨a, ha⟩ := h u
  cases ha.symm.trans hf

theorem stopsSaved_pure (a : α) : StopsSaved c (pure a : Step (Traced σ) α) :=
  stopsSaved_of_ok fun _ => ⟨_, rfl⟩

theorem stopsSaved_world : StopsSaved c (Task.world : Step (Traced σ) _) :=
  stopsSaved_of_ok fun _ => ⟨_, rfl⟩

theorem stopsSaved_attempt (t : Step (Traced σ) α) : StopsSaved c t.attempt :=
  stopsSaved_of_ok fun _ => ⟨_, rfl⟩

theorem stopsSaved_revise (f : Blueprint → Blueprint) :
    StopsSaved c (revise f : Step (Traced σ) Unit) :=
  stopsSaved_of_ok fun _ => ⟨_, rfl⟩

theorem stopsSaved_transition (f : Blueprint → Stamp → Transition) :
    StopsSaved c (transition c.traced f) :=
  stopsSaved_of_ok fun _ => ⟨_, rfl⟩

theorem stopsSaved_evaluateAxes (error : Option String) :
    StopsSaved c (evaluateAxes c.traced error) :=
  stopsSaved_of_ok fun _ => ⟨_, rfl⟩

/-! ## The steps of a pass -/

theorem endsSaved_save : EndsSaved c (save c.traced) := by
  intro u _
  rcases hrun : (c.repository.update u.blueprint).run u.world.world with ⟨answer, s⟩
  cases answer with
  | ok b' =>
    rw [run_save_of_ok hrun]
    exact .inl ⟨u.blueprint, u.world.world, hrun⟩
  | error f =>
    rw [run_save_of_error hrun]
    exact .inr ⟨_, List.mem_append_right _ (List.mem_singleton_self _), .storage rfl rfl⟩

theorem endsSaved_refuse (f : Failure) :
    EndsSaved c (save c.traced >>= fun _ => (Task.fail f : Step (Traced σ) α)) :=
  endsSaved_save.ofExcept fun _ => .error f

theorem stopsSaved_determine : StopsSaved c (determine c.traced) := by
  refine (stopsSaved_attempt _).bind fun answer => ?_
  cases answer with
  | ok d => exact stopsSaved_revise _
  | error f => exact (stopsSaved_evaluateAxes _).bind fun _ => (endsSaved_refuse f).savedIf

theorem stopsSaved_checkActions (policy : ActionPolicy) :
    StopsSaved c (checkActions c.traced policy) := by
  refine stopsSaved_world.bind fun u => ?_
  cases h : policy.validate u.blueprint.diff u.blueprint.config.allowNamespaceSwitch with
  | ok _ =>
    simp only [h]
    exact stopsSaved_pure ()
  | error f =>
    simp only [h]
    exact (stopsSaved_revise _).bind fun _ => (endsSaved_refuse f).savedIf

theorem stopsSaved_checkHealth : StopsSaved c (checkHealth c.traced) := by
  refine savedIf_attempt_bind fun answer u hcall => ?_
  cases answer with
  | ok _ => exact stopsSaved_pure () u
  | error f =>
    by_cases h : f.kind = .unhealthy
    · simp only [h, if_true]
      exact (stopsSaved_revise _).bind (fun _ => (endsSaved_refuse f).savedIf) u
    · simp only [h, if_false]
      exact fun _ => .inr ⟨_, hcall, .health h⟩

/-- A failure to apply is always told, so that it is stored. -/
theorem stopsSaved_apply (axis : Axis) : StopsSaved c (apply c.traced axis) := by
  refine (stopsSaved_attempt _).bind fun answer => savedIf_transition_bind ?_
  intro b now s calls
  cases answer with
  | ok _ =>
    refine stopsSaved_world.bind (fun u => .ite ?_ ?_) _
    · exact (endsSaved_save.ofExcept fun _ => .ok ()).savedIf
    · exact stopsSaved_pure ()
  | error f =>
    have htold : (b.completeApply axis (some f.message) now).blueprint.pending ≠ [] := by
      simp [Blueprint.completeApply, Blueprint.pending_transition]
    refine savedFrom_world_bind ?_
    rw [if_pos (by simp [htold])]
    exact (endsSaved_save.ofExcept fun _ => .error f).savedIf _

theorem stopsSaved_applyConfig : StopsSaved c (applyConfig c.traced) := by
  refine stopsSaved_world.bind fun u => .ite ?_ ?_
  · exact (stopsSaved_transition _).bind fun _ => stopsSaved_pure ()
  · refine (stopsSaved_transition _).bind fun _ => endsSaved_save.savedIf.bind fun _ => ?_
    refine (stopsSaved_attempt _).bind fun answer => ?_
    cases answer with
    | ok _ => exact (stopsSaved_transition _).bind fun _ => endsSaved_save.savedIf
    | error f => exact (stopsSaved_transition _).bind fun _ => (endsSaved_refuse f).savedIf

theorem endsSaved_applyAll : EndsSaved c (applyAll c.traced) := by
  refine stopsSaved_checkHealth.bind fun _ => stopsSaved_world.bind fun u => ?_
  refine (stopsSaved_apply _).bind fun _ => (stopsSaved_apply _).bind fun _ => ?_
  refine stopsSaved_applyConfig.bind fun _ => .ite ?_ ?_
  · exact endsSaved_refuse appliedChanges
  · exact (stopsSaved_transition _).bind fun _ =>
      endsSaved_save.ofExcept fun _ => .ok Outcome.completed

/-- All steps after loading end with a blueprint that is saved. -/
theorem endsSaved_proceed (policy : ActionPolicy) : EndsSaved c (proceed c.traced policy) := by
  refine stopsSaved_determine.bind fun _ => (stopsSaved_checkActions policy).bind fun _ => ?_
  refine (stopsSaved_evaluateAxes none).bind fun _ => stopsSaved_world.bind fun u => .ite ?_ ?_
  · exact endsSaved_save.ofExcept fun _ => .ok Outcome.dryRun
  · exact endsSaved_applyAll

end Step

/-! ## The whole pass -/

namespace Store

variable {s s' : Store} {w : Surroundings} {b b' : Blueprint}

/-- The document of a blueprint is a record with its conditions and its state diff, and none of its
events is pending. Whoever loads it gets the blueprint, with each action of a diff entry once. -/
structure Holds (s : Store) (b : Blueprint) (r : Record) : Prop where
  document : s.document? b.id = some r.document.toUTF8
  conditions : r.conditions = b.conditions
  diff : r.diff = b.diff
  pending : b.pending = []
  load : s.load b.id = .ok { b with diff := b.diff.remade }

theorem holds_of_update (h : s.update w b = (.ok b', s')) :
    ∃ published, s'.Holds b' (recordOf w b published) := by
  have hwrote := wrote_update w s b
  rw [h] at hwrote
  cases hwrote with
  | written published s' ha hd =>
    have hdocument := (hd b.id).trans (if_pos rfl)
    exact ⟨published, hdocument, rfl, rfl, rfl, load_of_document hdocument rfl⟩

end Store

namespace Collaborators

variable {σ : Type}

/-- The blueprint that a pass ends with, if it has loaded one. -/
def lastBlueprint? (c : Collaborators σ) (policy : ActionPolicy) (id : String) (s : σ) :
    Option Blueprint :=
  match (c.loadSingle id).run s with
  | (.ok b, s) => some ((Step.proceed c policy).run ⟨b, s⟩).2.blueprint
  | (.error _, _) => none

theorem lastBlueprint?_of_load {c : Collaborators σ} {id : String} {s s' : σ}
    {b : Blueprint} (h : (c.loadSingle id).run s = (.ok b, s')) (policy : ActionPolicy) :
    c.lastBlueprint? policy id s
      = some ((Step.proceed c policy).run ⟨b, s'⟩).2.blueprint := by
  simp only [lastBlueprint?, h]

/-- What a pass ends with is what the repository has just given back, unless there is a call after
which it may end without storing. -/
theorem saved_runPass (c : Collaborators σ) (policy : ActionPolicy) (id : String) (s : σ)
    {b : Blueprint} (hload : ((c.loadSingle id).run s).1 = .ok b) :
    ∃ b', c.lastBlueprint? policy id s = some b' ∧
      ((∃ b₀ s₀, (c.repository.update b₀).run s₀ = (.ok b', ((c.runPass policy id).run s).2)) ∨
        ∃ call ∈ ((c.traced.runPass policy id).run ⟨s, []⟩).2.calls, call.Excuses) := by
  rcases htraced : (c.traced.loadSingle id).run ⟨s, []⟩ with ⟨answer, s₁, calls⟩
  have hrun := loadSingle_of_traced htraced
  rw [hrun] at hload
  obtain rfl : answer = .ok b := hload
  let u := (Step.proceed c.traced policy).run ⟨b, ⟨s₁, calls⟩⟩
  have hproceed : (Step.proceed c policy).run ⟨b, s₁⟩ = (u.1, Step.view u.2) :=
    Step.mirrors_proceed policy ⟨b, ⟨s₁, calls⟩⟩
  have hpass : (c.traced.runPass policy id).run ⟨s, []⟩ = (u.1, u.2.world) := by
    rw [runPass, Task.run_bind_ok htraced]
    rfl
  have hworld : ((c.runPass policy id).run s).2 = u.2.world.world := by
    rw [runPass, Task.run_bind_ok hrun]
    simp only [Step.startingWith, hproceed]
    rfl
  refine ⟨u.2.blueprint, ?_, ?_⟩
  · rw [lastBlueprint?_of_load hrun, hproceed]
    rfl
  · rw [hworld, hpass]
    exact Step.endsSaved_proceed policy ⟨b, ⟨s₁, calls⟩⟩ trivial

end Collaborators
end BlueprintControl
