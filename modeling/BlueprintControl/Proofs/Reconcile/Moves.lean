import BlueprintControl.Domain.Operation
import BlueprintControl.Proofs.Reconcile.Mirror

/-!
# The moves of a pass

A pass does one thing at a time: it performs an operation on its blueprint, looks at the clock, asks
the source of diffs or the executor, or stores the blueprint. `Move` lists these, with the call that
each of them makes, if any. What every move preserves is preserved by every pass, and what a pass
does to the world is what its calls do, one after another.

## Main definitions

* `Move`: a single thing that a pass does.
* `Moves`: what a pass does up to some point, with all its calls.
* `Step.Charted`: a step consists of moves, and its calls are the calls of its moves.

## Main statements

* `Step.charted_proceed`: all steps after loading consist of moves.
-/
namespace BlueprintControl

variable {σ : Type}

/-- A single thing that a pass does, with its call. -/
inductive Move (c : Collaborators σ) : Underway σ → Option Call → Underway σ → Prop where
  | performed (b : Blueprint) (s : σ) (now : Stamp) (o : Operation) (ho : o ≠ .drain) :
      Move c ⟨b, s⟩ none ⟨(b.perform now o).blueprint, s⟩
  | ticked (b : Blueprint) (s : σ) : Move c ⟨b, s⟩ none ⟨b, (c.clock s).2⟩
  | determined (b : Blueprint) (s : σ) :
      Move c ⟨b, s⟩ (some (.determine b ((c.diffs.determine b).run s).1))
        ⟨b, ((c.diffs.determine b).run s).2⟩
  | checkedHealth (b : Blueprint) (s : σ) (g : BlueprintConfig) :
      Move c ⟨b, s⟩ (some (.checkHealth g ((c.executor.checkHealth g).run s).1))
        ⟨b, ((c.executor.checkHealth g).run s).2⟩
  | appliedComponents (b : Blueprint) (s : σ) (ds : List (DiffEntry Snapshot Action)) :
      Move c ⟨b, s⟩ (some (.applyComponents ds ((c.executor.applyComponents ds).run s).1))
        ⟨b, ((c.executor.applyComponents ds).run s).2⟩
  | appliedDogus (b : Blueprint) (s : σ) (ds : List (DiffEntry Snapshot Action)) :
      Move c ⟨b, s⟩ (some (.applyDogus ds ((c.executor.applyDogus ds).run s).1))
        ⟨b, ((c.executor.applyDogus ds).run s).2⟩
  | appliedConfig (b : Blueprint) (s : σ) (ds : List (DiffEntry ConfigSnapshot ConfigAction)) :
      Move c ⟨b, s⟩ (some (.applyConfig ds ((c.executor.applyConfig ds).run s).1))
        ⟨b, ((c.executor.applyConfig ds).run s).2⟩
  | stored {b b' : Blueprint} {s s' : σ} (h : (c.repository.update b).run s = (.ok b', s')) :
      Move c ⟨b, s⟩ (some (.update b (.ok b'))) ⟨b', s'⟩
  | notStored {b : Blueprint} {s s' : σ} {f : Failure}
      (h : (c.repository.update b).run s = (.error f, s')) :
      Move c ⟨b, s⟩ (some (.update b (.error f))) ⟨b, s'⟩

/-- Moves one after another, with all their calls. -/
inductive Moves (c : Collaborators σ) : Underway σ → List Call → Underway σ → Prop where
  | refl (u : Underway σ) : Moves c u [] u
  | step {u v w : Underway σ} {call : Option Call} {calls : List Call} (h : Move c u call v)
      (h' : Moves c v calls w) : Moves c u (call.toList ++ calls) w

namespace Moves

variable {c : Collaborators σ} {u v w : Underway σ} {calls more : List Call}

theorem trans (h : Moves c u calls v) (h' : Moves c v more w) : Moves c u (calls ++ more) w := by
  induction h with
  | refl u => exact h'
  | step h _ ih =>
    rw [List.append_assoc]
    exact .step h (ih h')

theorem single {call : Option Call} (h : Move c u call v) : Moves c u call.toList v := by
  simpa using step h (refl v)

/-- The source of diffs and the executor answer in some world or other. What holds of all their
answers, and of whatever the repository answers, holds of all calls. -/
theorem forall_mem {P : Call → Prop}
    (hdetermine : ∀ b s, P (.determine b ((c.diffs.determine b).run s).1))
    (hhealth : ∀ g s, P (.checkHealth g ((c.executor.checkHealth g).run s).1))
    (hcomponents : ∀ ds s, P (.applyComponents ds ((c.executor.applyComponents ds).run s).1))
    (hdogus : ∀ ds s, P (.applyDogus ds ((c.executor.applyDogus ds).run s).1))
    (hconfig : ∀ ds s, P (.applyConfig ds ((c.executor.applyConfig ds).run s).1))
    (hupdate : ∀ b answer, P (.update b answer)) (h : Moves c u calls v) :
    ∀ call ∈ calls, P call := by
  induction h with
  | refl u => exact List.forall_mem_nil _
  | step h h' ih =>
    refine List.forall_mem_append.mpr ⟨?_, ih⟩
    cases h with
    | performed b s now o ho => exact List.forall_mem_nil _
    | ticked b s => exact List.forall_mem_nil _
    | determined b s => exact List.forall_mem_singleton.mpr (hdetermine b s)
    | checkedHealth b s g => exact List.forall_mem_singleton.mpr (hhealth g s)
    | appliedComponents b s ds => exact List.forall_mem_singleton.mpr (hcomponents ds s)
    | appliedDogus b s ds => exact List.forall_mem_singleton.mpr (hdogus ds s)
    | appliedConfig b s ds => exact List.forall_mem_singleton.mpr (hconfig ds s)
    | stored h => exact List.forall_mem_singleton.mpr (hupdate _ _)
    | notStored h => exact List.forall_mem_singleton.mpr (hupdate _ _)

/-- The source of diffs has answered in some world. -/
theorem exists_answer {b : Blueprint} {answer : Except Failure StateDiff} (h : Moves c u calls v)
    (hcall : .determine b answer ∈ calls) :
    ∃ s, answer = ((c.diffs.determine b).run s).1 := by
  have hanswers : ∀ call ∈ calls, ∀ answer, call = .determine b answer →
      ∃ s, answer = ((c.diffs.determine b).run s).1 := by
    refine h.forall_mem ?_ ?_ ?_ ?_ ?_ ?_
    · intro b' s answer heq
      cases heq
      exact ⟨s, rfl⟩
    -- No other call asks for a diff.
    all_goals
      intro _ _ answer heq
      cases heq
  exact hanswers _ hcall answer rfl

end Moves

namespace Step

variable {α β : Type} {c : Collaborators σ}

/-- A step consists of moves, and its calls are the calls of its moves. -/
def Charted (c : Collaborators σ) (t : Step (Traced σ) α) : Prop :=
  ∀ u, ∃ more, (t.run u).2.world.calls = u.world.calls ++ more ∧
    Moves c (view u) more (view (t.run u).2)

/-! ## Steps made of steps -/

theorem charted_of_idle {t : Step (Traced σ) α} (h : ∀ u, (t.run u).2 = u) : Charted c t := by
  intro u
  rw [h u]
  exact ⟨[], (List.append_nil _).symm, .refl _⟩

theorem charted_pure (a : α) : Charted c (pure a : Step (Traced σ) α) :=
  charted_of_idle fun _ => rfl

theorem charted_fail (f : Failure) : Charted c (Task.fail f : Step (Traced σ) α) :=
  charted_of_idle fun _ => rfl

theorem charted_ofExcept (r : Except Failure α) :
    Charted c (Task.ofExcept r : Step (Traced σ) α) :=
  charted_of_idle fun _ => rfl

theorem charted_world : Charted c (Task.world : Step (Traced σ) _) :=
  charted_of_idle fun _ => rfl

theorem Charted.attempt {t : Step (Traced σ) α} (h : Charted c t) : Charted c t.attempt := h

theorem Charted.ite {p : Prop} [Decidable p] {t t' : Step (Traced σ) α} (h : Charted c t)
    (h' : Charted c t') : Charted c (if p then t else t') := by
  split
  · exact h
  · exact h'

theorem Charted.bind {t : Step (Traced σ) α} {g : α → Step (Traced σ) β} (ht : Charted c t)
    (hg : ∀ a, Charted c (g a)) : Charted c (t >>= g) := by
  intro u
  obtain ⟨more, hmore, hmoves⟩ := ht u
  rcases hrun : t.run u with ⟨result, v⟩
  rw [hrun] at hmore hmoves
  cases result with
  | ok a =>
    rw [Task.run_bind_ok hrun]
    obtain ⟨rest, hrest, hmoves'⟩ := hg a v
    exact ⟨more ++ rest, by rw [hrest, hmore, List.append_assoc], hmoves.trans hmoves'⟩
  | error e =>
    rw [Task.run_bind_error hrun]
    exact ⟨more, hmore, hmoves⟩

/-! ## Steps that are moves -/

/-- A step that makes one move wherever it starts. -/
theorem charted_of_move {t : Step (Traced σ) α} (call : Underway (Traced σ) → Option Call)
    (hcalls : ∀ u, (t.run u).2.world.calls = u.world.calls ++ (call u).toList)
    (hmove : ∀ u, Move c (view u) (call u) (view (t.run u).2)) : Charted c t :=
  fun u => ⟨_, hcalls u, .single (hmove u)⟩

theorem charted_revise {f : Blueprint → Blueprint} (o : Operation) (ho : o ≠ .drain)
    (hf : ∀ b, f b = (b.perform default o).blueprint) :
    Charted c (revise f : Step (Traced σ) Unit) := by
  obtain rfl : f = fun b => (b.perform default o).blueprint := funext hf
  exact charted_of_move (fun _ => none) (fun _ => (List.append_nil _).symm)
    fun u => .performed u.blueprint u.world.world default o ho

/-- The time of the clock is the time of the operation. -/
theorem charted_transition (o : Operation) (ho : o ≠ .drain) :
    Charted c (transition c.traced fun b now => b.perform now o) := by
  intro u
  refine ⟨[], (List.append_nil _).symm, ?_⟩
  exact .step (.ticked u.blueprint u.world.world)
    (.single (.performed u.blueprint (c.clock u.world.world).2 (c.clock u.world.world).1 o ho))

theorem charted_save : Charted c (save c.traced) := by
  intro u
  rcases hrun : (c.repository.update u.blueprint).run u.world.world with ⟨answer, s⟩
  cases answer with
  | ok b' =>
    rw [run_save_of_ok hrun]
    exact ⟨_, rfl, .single (.stored hrun)⟩
  | error f =>
    rw [run_save_of_error hrun]
    exact ⟨_, rfl, .single (.notStored hrun)⟩

theorem charted_refuse (f : Failure) :
    Charted c (save c.traced >>= fun _ => (Task.fail f : Step (Traced σ) α)) :=
  charted_save.bind fun _ => charted_fail f

/-! ## The steps of a pass -/

theorem charted_evaluateAxes (error : Option String) : Charted c (evaluateAxes c.traced error) :=
  (charted_transition (.evaluate .dogus error) nofun).bind fun _ =>
    (charted_transition (.evaluate .components error) nofun).bind fun _ => charted_pure ()

theorem charted_determine : Charted c (determine c.traced) := by
  refine Charted.bind (Charted.attempt ?asks) fun answer => ?_
  case asks =>
    exact charted_of_move (fun _ => some _) (fun _ => rfl)
      fun u => .determined u.blueprint u.world.world
  cases answer with
  | ok d => exact charted_revise (.replaceDiff d) nofun fun _ => rfl
  | error f => exact (charted_evaluateAxes _).bind fun _ => charted_refuse f

theorem charted_checkActions (policy : ActionPolicy) :
    Charted c (checkActions c.traced policy) := by
  refine charted_world.bind fun u => ?_
  cases h : policy.validate u.blueprint.diff u.blueprint.config.allowNamespaceSwitch with
  | ok _ =>
    simp only [h]
    exact charted_pure ()
  | error f =>
    simp only [h]
    exact (charted_revise (.rejectActions f.message) nofun fun _ => rfl).bind fun _ =>
      charted_refuse f

theorem charted_checkHealth : Charted c (checkHealth c.traced) := by
  refine Charted.bind (Charted.attempt ?asks) fun answer => ?_
  case asks =>
    exact charted_of_move (fun _ => some _) (fun _ => rfl)
      fun u => .checkedHealth u.blueprint u.world.world u.blueprint.config
  cases answer with
  | ok _ => exact charted_pure ()
  | error f =>
    refine Charted.ite ?_ (charted_fail f)
    exact (charted_revise (.rejectUnhealthy f.message) nofun fun _ => rfl).bind fun _ =>
      charted_refuse f

theorem charted_apply (axis : Axis) : Charted c (apply c.traced axis) := by
  refine Charted.bind (Charted.attempt ?asks) fun answer => ?_
  case asks =>
    cases axis with
    | components =>
      exact charted_of_move (fun _ => some _) (fun _ => rfl)
        fun u => .appliedComponents u.blueprint u.world.world u.blueprint.diff.components
    | dogus =>
      exact charted_of_move (fun _ => some _) (fun _ => rfl)
        fun u => .appliedDogus u.blueprint u.world.world u.blueprint.diff.dogus
  refine (charted_transition (.completeApply axis _) nofun).bind fun changed => ?_
  refine charted_world.bind fun u => .ite ?_ (charted_ofExcept answer)
  exact charted_save.bind fun _ => charted_ofExcept answer

theorem charted_applyConfig : Charted c (applyConfig c.traced) := by
  refine charted_world.bind fun u => .ite ?_ ?_
  · exact (charted_transition .finishConfig nofun).bind fun _ => charted_pure ()
  · refine (charted_transition .startConfig nofun).bind fun _ => charted_save.bind fun _ => ?_
    refine Charted.bind (Charted.attempt ?asks) fun answer => ?_
    case asks =>
      exact charted_of_move (fun _ => some _) (fun _ => rfl)
        fun u => .appliedConfig u.blueprint u.world.world u.blueprint.diff.config
    cases answer with
    | ok _ => exact (charted_transition .finishConfig nofun).bind fun _ => charted_save
    | error f =>
      exact (charted_transition (.failConfig f.message) nofun).bind fun _ => charted_refuse f

theorem charted_applyAll : Charted c (applyAll c.traced) := by
  refine charted_checkHealth.bind fun _ => charted_world.bind fun u => ?_
  refine (charted_apply _).bind fun _ => (charted_apply _).bind fun _ =>
    charted_applyConfig.bind fun _ => .ite (charted_refuse appliedChanges) ?_
  exact (charted_transition .complete nofun).bind fun _ =>
    charted_save.bind fun _ => charted_pure _

/-- All steps after loading consist of moves. -/
theorem charted_proceed (policy : ActionPolicy) : Charted c (proceed c.traced policy) := by
  refine charted_determine.bind fun _ => (charted_checkActions policy).bind fun _ =>
    (charted_evaluateAxes none).bind fun _ => charted_world.bind fun u => .ite ?_ charted_applyAll
  exact charted_save.bind fun _ => charted_pure _

end Step
end BlueprintControl
