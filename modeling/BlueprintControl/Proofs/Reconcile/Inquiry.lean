import BlueprintControl.Proofs.Reconcile.Gate

/-!
# What a pass asks first

A pass asks what there is to do: it lists the blueprints, loads one and determines its diff, in this
order and each only once. Everything it calls later acts on the answers. So a diff among the calls
of a pass is the diff the pass works with, and a blueprint that was loaded is the one it starts
with.

## Main definitions

* `Call.isInquiry`, `Acts`: asking what there is to do, and not asking it any more.
* `Step.Continues`: how a pass goes on when it knows the diff.

## Main statements

* `Step.Proceeds.split`: the diff is determined first, and once.
* `Collaborators.Passes.of_load`, `Collaborators.Passes.of_determine`: passes by their inquiries.
-/
namespace BlueprintControl

/-- Whether a call asks what there is to do. -/
def Call.isInquiry : Call → Bool
  | .list _ | .load _ _ | .determine _ _ => true
  | _ => false

/-- It is not asked any more what there is to do. -/
def Acts (calls : List Call) : Prop := ∀ call ∈ calls, call.isInquiry = false

namespace Step

variable {σ : Type} {c : Collaborators σ} {b b' : Blueprint} {calls : List Call}

/-- Checking the actions of a diff and what comes after it. -/
def Continues (c : Collaborators σ) (policy : ActionPolicy) (b : Blueprint) : Ending Outcome :=
  (ChecksActions c b policy).Then fun b₁ => Evaluates c b₁

theorem Continues.acts {policy : ActionPolicy} {r : Except Failure Outcome}
    (h : Continues c policy b r calls b') : Acts calls :=
  Ending.Then.forall_mem h (fun _ _ _ h => h.forall_mem fun _ _ => rfl) fun _ _ _ _ h =>
    h.forall_mem (fun _ _ => rfl) (fun _ _ => rfl) (fun axis _ _ => by cases axis <;> rfl)
      fun _ _ => rfl

theorem Continues.safe {policy : ActionPolicy} {r : Except Failure Outcome}
    (h : Continues c policy b r calls b') : Safe r calls :=
  Ending.Then.safe h (fun _ _ _ => ChecksActions.safe) fun _ _ _ _ => Evaluates.safe

/-- The diff is determined once, and first. -/
theorem Proceeds.split {policy : ActionPolicy} {r : Except Failure Outcome}
    (h : Proceeds c b policy r calls b') : ∃ answer rest, calls = .determine b answer :: rest ∧
      Acts rest ∧ ((∃ f g, answer = .error f ∧ r = .error g) ∨
        ∃ d, answer = .ok d ∧ Continues c policy { b with diff := d } r rest b') := by
  cases h with
  | stopped h =>
    cases h with
    | unknown f now now' h =>
      exact ⟨_, _, rfl, h.forall_mem fun _ _ => rfl, .inl ⟨f, _, rfl, rfl⟩⟩
  | continued h h' =>
    obtain ⟨d, rfl, rfl⟩ := h.eq_of_ok
    exact ⟨_, _, rfl, Continues.acts h', .inr ⟨d, rfl, h'⟩⟩

end Step

namespace Collaborators

variable {σ : Type} {c : Collaborators σ} {policy : ActionPolicy} {id : String}
  {r : Except Failure Outcome} {calls : List Call}

/-- Of a pass that loads a blueprint, these are the steps after loading. -/
theorem Passes.of_load {b : Blueprint} {id' : String} (h : c.Passes policy id r calls)
    (hl : .load id' (.ok b) ∈ calls) : ∃ ids more b',
      calls = .list (.ok ids) :: .load id (.ok b) :: more ∧ Step.Proceeds c b policy r more b' := by
  cases h with
  | notListed f => cases List.mem_singleton.mp hl
  | several h => cases List.mem_singleton.mp hl
  | notLoaded h f => simp at hl
  | @loaded ids h b₀ r more b' h' =>
    obtain ⟨answer, rest, rfl, hacts, -⟩ := h'.split
    simp only [List.mem_cons, reduceCtorEq, false_or] at hl
    obtain heq | hmem := hl
    · cases heq
      exact ⟨ids, _, b', rfl, h'⟩
    · cases hacts _ hmem

/-- Of a pass that determines a diff, these are the steps after it. -/
theorem Passes.of_determine {b : Blueprint} {d : StateDiff} (h : c.Passes policy id r calls)
    (hd : .determine b (.ok d) ∈ calls) : ∃ ids rest b', ids.length ≤ 1 ∧
      calls = .list (.ok ids) :: .load id (.ok b) :: .determine b (.ok d) :: rest ∧
      Step.Continues c policy { b with diff := d } r rest b' := by
  cases h with
  | notListed f => cases List.mem_singleton.mp hd
  | several h => cases List.mem_singleton.mp hd
  | notLoaded h f => simp at hd
  | @loaded ids h b₀ r more b' h' =>
    obtain ⟨answer, rest, rfl, hacts, hrest⟩ := h'.split
    simp only [List.mem_cons, reduceCtorEq, false_or] at hd
    obtain heq | hmem := hd
    · cases heq
      obtain ⟨f, g, hf, -⟩ | ⟨d', hd', hcontinues⟩ := hrest
      · cases hf
      · cases hd'
        exact ⟨ids, rest, b', h, rfl, hcontinues⟩
    · cases hacts _ hmem

end Collaborators
end BlueprintControl
