import BlueprintControl.Reconcile.Call
import BlueprintControl.Reconcile.Pass

/-!
# What a step of a pass calls

A step starts with a blueprint. It makes calls, whose answers are not up to the step, and ends with
a result and another blueprint. `Step.Yields` bounds what can come of it: result, calls and
blueprint together, for every world and every answer. One rule for each way of building a step
reduces a step to its parts.

## Main definitions

* `Step.Ending`: results, calls and blueprints that belong together.
* `Step.Ending.Then`: the endings of one step after another.
* `Step.Yields`: a step can come to nothing but these endings.

## Main statements

* `Step.Yields.seq`, `Step.yields_transition_bind`, `Step.yields_ask_bind`, ...: the rules.
-/
namespace BlueprintControl.Step

/-- Results, calls and blueprints that a step can end with. -/
abbrev Ending (α : Type) : Type := Except Failure α → List Call → Blueprint → Prop

variable {σ α β : Type}

/-- One step after another. The second one is done if the first one has succeeded, and starts with
the blueprint that the first one leaves. -/
inductive Ending.Then (first : Ending Unit) (second : Blueprint → Ending α) : Ending α where
  | stopped {f : Failure} {calls : List Call} {b' : Blueprint} (h : first (.error f) calls b') :
      Then first second (.error f) calls b'
  | continued {r : Except Failure α} {calls more : List Call} {b₁ b' : Blueprint}
      (h : first (.ok ()) calls b₁) (h' : second b₁ r more b') :
      Then first second r (calls ++ more) b'

theorem Ending.Then.of_ok {first : Ending Unit} {second : Blueprint → Ending α} {a : α}
    {calls : List Call} {b' : Blueprint} (h : first.Then second (.ok a) calls b') :
    ∃ before after b₁, calls = before ++ after ∧ first (.ok ()) before b₁ ∧
      second b₁ (.ok a) after b' := by
  cases h with
  | continued h h' => exact ⟨_, _, _, rfl, h, h'⟩

/-- Whatever the world is like: what a step comes to, when it starts with a blueprint, is one of
these endings. -/
def Yields (t : Step (Traced σ) α) (b : Blueprint) (Q : Ending α) : Prop :=
  ∀ s calls, ∃ more, (t.run ⟨b, ⟨s, calls⟩⟩).2.world.calls = calls ++ more ∧
    Q (t.run ⟨b, ⟨s, calls⟩⟩).1 more (t.run ⟨b, ⟨s, calls⟩⟩).2.blueprint

variable {b : Blueprint} {Q R : Ending α}

theorem Yields.mono {t : Step (Traced σ) α} (ht : Yields t b Q)
    (h : ∀ r calls b', Q r calls b' → R r calls b') : Yields t b R := by
  intro s calls
  obtain ⟨more, hmore, hq⟩ := ht s calls
  exact ⟨more, hmore, h _ _ _ hq⟩

/-! ## Steps without calls -/

theorem yields_ofExcept {r : Except Failure α} (h : Q r [] b) :
    Yields (Task.ofExcept r : Step (Traced σ) α) b Q :=
  fun _ _ => ⟨[], (List.append_nil _).symm, h⟩

theorem yields_pure {a : α} (h : Q (.ok a) [] b) : Yields (pure a : Step (Traced σ) α) b Q :=
  yields_ofExcept h

theorem yields_fail {f : Failure} (h : Q (.error f) [] b) :
    Yields (Task.fail f : Step (Traced σ) α) b Q :=
  yields_ofExcept h

theorem yields_revise {f : Blueprint → Blueprint} {Q : Ending Unit} (h : Q (.ok ()) [] (f b)) :
    Yields (revise f : Step (Traced σ) Unit) b Q :=
  fun _ _ => ⟨[], (List.append_nil _).symm, h⟩

/-! ## Steps made of steps -/

theorem Yields.bind {t : Step (Traced σ) α} {f : α → Step (Traced σ) β} {R : Ending β}
    (ht : Yields t b Q)
    (hok : ∀ a calls b', Q (.ok a) calls b' →
      Yields (f a) b' fun r more b'' => R r (calls ++ more) b'')
    (herror : ∀ e calls b', Q (.error e) calls b' → R (.error e) calls b') :
    Yields (t >>= f) b R := by
  intro s calls
  obtain ⟨more, hmore, hq⟩ := ht s calls
  rcases hrun : t.run ⟨b, ⟨s, calls⟩⟩ with ⟨result, b', s', calls'⟩
  rw [hrun] at hmore hq
  obtain rfl : calls' = calls ++ more := hmore
  cases result with
  | ok a =>
    rw [Task.run_bind_ok hrun]
    obtain ⟨rest, hrest, hr⟩ := hok a more b' hq s' (calls ++ more)
    exact ⟨more ++ rest, by rw [hrest, List.append_assoc], hr⟩
  | error e =>
    rw [Task.run_bind_error hrun]
    exact ⟨more, rfl, herror e more b' hq⟩

theorem Yields.seq {t : Step (Traced σ) Unit} {f : Unit → Step (Traced σ) α}
    {first : Ending Unit} {second : Blueprint → Ending α} (ht : Yields t b first)
    (hf : ∀ b', Yields (f ()) b' (second b')) : Yields (t >>= f) b (first.Then second) :=
  ht.bind (fun _ _ b' h => (hf b').mono fun _ _ _ h' => .continued h h') fun _ _ _ h => .stopped h

/-- A transition happens at some time or other, and adds nothing to the calls. -/
theorem yields_transition_bind {c : Collaborators σ} {f : Blueprint → Stamp → Transition}
    {g : Bool → Step (Traced σ) α}
    (h : ∀ now, Yields (g (f b now).changed) (f b now).blueprint Q) :
    Yields (transition c.traced f >>= g) b Q :=
  fun s calls => h (c.clock s).1 (c.clock s).2 calls

theorem yields_revise_bind {f : Blueprint → Blueprint} {g : Unit → Step (Traced σ) α}
    (h : Yields (g ()) (f b) Q) : Yields (revise f >>= g) b Q :=
  fun s calls => h s calls

/-- Looking at the world tells nothing but the blueprint. -/
theorem yields_world_bind {f : Underway (Traced σ) → Step (Traced σ) α}
    (h : ∀ u, u.blueprint = b → Yields (f u) b Q) : Yields (Task.world >>= f) b Q :=
  fun s calls => h _ rfl s calls

/-! ## Calls -/

section Calls

variable {question : Blueprint → Task σ α} {call : Blueprint → Except Failure α → Call}

/-- A question whose failure is data is one call, with the answer that was given. -/
theorem yields_attempt_bind {g : Except Failure α → Step (Traced σ) β} {R : Ending β}
    (h : ∀ answer, Yields (g answer) b fun r more b' => R r (call b answer :: more) b') :
    Yields (Task.attempt (ask fun b => (question b).traced (call b)) >>= g) b R := by
  intro s calls
  obtain ⟨more, hmore, hr⟩ := h ((question b).run s).1 ((question b).run s).2
    (calls ++ [call b ((question b).run s).1])
  exact ⟨_, hmore.trans (List.append_assoc _ _ _), hr⟩

/-- A question whose failure ends the pass. The answer is one that can be given. -/
theorem yields_ask_bind {g : α → Step (Traced σ) β} {R : Ending β}
    (hok : ∀ s a s', (question b).run s = (.ok a, s') →
      Yields (g a) b fun r more b' => R r (call b (.ok a) :: more) b')
    (herror : ∀ f, R (.error f) [call b (.error f)] b) :
    Yields (ask (fun b => (question b).traced (call b)) >>= g) b R := by
  intro s calls
  rcases hrun : (question b).run s with ⟨answer, s'⟩
  cases answer with
  | ok a =>
    obtain ⟨more, hmore, hr⟩ := hok s a s' hrun s' (calls ++ [call b (.ok a)])
    have hask : (ask fun b => (question b).traced (call b)).run ⟨b, ⟨s, calls⟩⟩
        = (.ok a, ⟨b, ⟨s', calls ++ [call b (.ok a)]⟩⟩) := by
      simp [ask, hrun]
    rw [Task.run_bind_ok hask]
    exact ⟨_, hmore.trans (List.append_assoc _ _ _), hr⟩
  | error f =>
    have hask : (ask fun b => (question b).traced (call b)).run ⟨b, ⟨s, calls⟩⟩
        = (.error f, ⟨b, ⟨s', calls ++ [call b (.error f)]⟩⟩) := by
      simp [ask, hrun]
    rw [Task.run_bind_error hask]
    exact ⟨_, rfl, herror f⟩

end Calls
end BlueprintControl.Step
