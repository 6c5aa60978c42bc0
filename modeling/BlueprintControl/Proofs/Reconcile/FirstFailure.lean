import BlueprintControl.Proofs.Reconcile.Gate
import BlueprintControl.Proofs.Reconcile.Mirror
import BlueprintControl.Reconcile.Rehearsal
import BlueprintControl.Reconcile.Report

/-!
# Which failure ends a pass

A pass ends with the failure of the first call that fails, or with what forbids the actions of the
diff it was given. There is one exception. Before a pass ends it may store what has happened, and if
this fails too, the pass ends with the second failure: the first one is masked, and what happens
next is decided by the wrong one.

## Main definitions

* `Call.stop?`: why a pass cannot go on after a call.
* `Masks`: the failure to store what has happened takes the place of what has happened.
* `Settles`: how the calls of a step settle its result.

## Main statements

* `Step.Proceeds.settles`: the calls of a pass settle its result.
* `Reconciler.ends_with_first_failure`: result, report and decision of a pass that cannot go on.
* `Reconciler.masked_by_conflict`: a failure that is masked.
-/
namespace BlueprintControl

/-- Why a pass cannot go on after a call: the failure of the call, or what forbids the actions of
the diff that it has given. -/
def Call.stop? (policy : ActionPolicy) : Call → Option Failure
  | .determine b (.ok d) =>
    failure?.failed (policy.validate d b.config.allowNamespaceSwitch)
  | call => call.failure?

/-- The first failure is followed by a last call that stores what has happened and fails too. -/
def Masks (policy : ActionPolicy) (g f : Failure) (calls : List Call) : Prop :=
  ∃ before u, calls = before ++ [.update u (.error g)] ∧
    before.findSome? (Call.stop? policy) = some f

/-- The calls of a step settle its result. -/
inductive Settles {α : Type} (policy : ActionPolicy) :
    Except Failure α → List Call → Prop where
  /-- Nothing keeps the step from going on. -/
  | unstopped {r : Except Failure α} {calls : List Call}
      (h : calls.findSome? (Call.stop? policy) = none) : Settles policy r calls
  | stopped {f : Failure} {calls : List Call}
      (h : calls.findSome? (Call.stop? policy) = some f) : Settles policy (.error f) calls
  | masked {g : Failure} {calls : List Call} (f : Failure) (h : Masks policy g f calls) :
      Settles policy (.error g) calls

section Calls

variable {α : Type} {policy : ActionPolicy} {r : Except Failure α} {calls more : List Call}

/-- After calls that keep nothing from going on, the other calls settle the result. -/
theorem Settles.append (hcalls : calls.findSome? (Call.stop? policy) = none)
    (h : Settles policy r more) : Settles policy r (calls ++ more) := by
  have hfind : (calls ++ more).findSome? (Call.stop? policy)
      = more.findSome? (Call.stop? policy) := by
    rw [List.findSome?_append, hcalls, Option.none_or]
  cases h with
  | unstopped h => exact .unstopped (hfind.trans h)
  | stopped h => exact .stopped (hfind.trans h)
  | masked f h =>
    obtain ⟨before, u, rfl, hbefore⟩ := h
    refine .masked f ⟨calls ++ before, u, (List.append_assoc ..).symm, ?_⟩
    rw [List.findSome?_append, hcalls, Option.none_or, hbefore]

theorem Settles.cons {call : Call} (hcall : call.stop? policy = none)
    (h : Settles policy r more) : Settles policy r (call :: more) := by
  have hone : [call].findSome? (Call.stop? policy) = none := by simp [hcall]
  exact h.append hone

theorem Settles.findSome?_of_ok {a : α} (h : Settles policy (.ok a) calls) :
    calls.findSome? (Call.stop? policy) = none := by
  cases h with
  | unstopped h => exact h

/-- A failure is settled whatever kind of result there would be without it. -/
theorem Settles.error {β : Type} {f : Failure}
    (h : Settles policy (.error f : Except Failure β) calls) :
    Settles policy (.error f : Except Failure α) calls := by
  cases h with
  | unstopped h => exact .unstopped h
  | stopped h => exact .stopped h
  | masked f h => exact .masked f h

theorem Settles.map {β : Type} (h : Settles policy r calls) (f : α → β) :
    Settles policy (r.map f) calls := by
  cases r with
  | ok a => exact .unstopped h.findSome?_of_ok
  | error g => exact h.error

theorem Settles.of_stopped (h : Settles policy r calls) {f : Failure}
    (hf : calls.findSome? (Call.stop? policy) = some f) :
    ∃ g, r = .error g ∧ (g = f ∨ Masks policy g f calls) := by
  cases h with
  | unstopped h => cases h.symm.trans hf
  | stopped h =>
    cases h.symm.trans hf
    exact ⟨f, rfl, .inl rfl⟩
  | masked f h =>
    obtain ⟨before, u, rfl, hbefore⟩ := h
    rw [List.findSome?_append, hbefore, Option.some_or] at hf
    cases hf
    exact ⟨_, rfl, .inr ⟨before, u, rfl, hbefore⟩⟩

end Calls

namespace Step

variable {σ α : Type} {c : Collaborators σ} {b b' : Blueprint} {calls : List Call}
  {policy : ActionPolicy}

theorem Ending.Then.settles {first : Ending Unit} {second : Blueprint → Ending α}
    {r : Except Failure α} (h : first.Then second r calls b')
    (hfirst : ∀ r calls b', first r calls b' → Settles policy r calls)
    (hsecond : ∀ b r calls b', second b r calls b' → Settles policy r calls) :
    Settles policy r calls := by
  cases h with
  | stopped h => exact (hfirst _ _ _ h).error
  | continued h h' => exact (hsecond _ _ _ _ h').append (hfirst _ _ _ h).findSome?_of_ok

/-! ## Storing what has happened -/

theorem Saves.settles {r : Except Failure Unit} (h : Saves c b r calls b') :
    Settles policy r calls := by
  cases h with
  | stored h => exact .unstopped rfl
  | failed g => exact .stopped rfl

/-- What was answered before is the result, unless it cannot be stored. -/
theorem Saves.settles_cons {r : Except Failure Unit} (h : Saves c b r calls b') {call : Call}
    {answer : Except Failure Unit} (hcall : call.stop? policy = Call.failure?.failed answer) :
    Settles policy (r.bind fun _ => answer) (call :: calls) := by
  cases answer with
  | ok _ =>
    cases r with
    | ok _ => exact h.settles.cons hcall
    | error g => exact h.settles.cons hcall
  | error f =>
    cases h with
    | stored h => exact .stopped (by simp [hcall, Call.failure?.failed])
    | failed g => exact .masked f ⟨[call], b, rfl, by simp [hcall, Call.failure?.failed]⟩

/-- A refusal with nothing before it that failed. -/
theorem Refuses.settles {f : Failure} {r : Except Failure α} (h : Refuses c b f r calls b') :
    Settles policy r calls := by
  cases h with
  | stored h => exact .unstopped rfl
  | failed g => exact .stopped rfl

/-- A refusal because of what was answered before. -/
theorem Refuses.settles_cons {f : Failure} {r : Except Failure α}
    (h : Refuses c b f r calls b') {call : Call} (hcall : call.stop? policy = some f) :
    Settles policy r (call :: calls) := by
  cases h with
  | stored h => exact .stopped (by simp [hcall])
  | failed g => exact .masked f ⟨[call], b, rfl, by simp [hcall]⟩

/-! ## The steps -/

theorem ChecksHealth.settles {r : Except Failure Unit} (h : ChecksHealth c b r calls b') :
    Settles policy r calls := by
  cases h with
  | healthy => exact .unstopped rfl
  | unhealthy h h' => exact h'.settles_cons rfl
  | unknown h => exact .stopped rfl

theorem Applies.settles {axis : Axis} {r : Except Failure Unit}
    (h : Applies c b axis r calls b') : Settles policy r calls := by
  have hcall : ∀ answer : Except Failure Unit,
      (axis.applyCall b.diff answer).stop? policy = Call.failure?.failed answer := by
    cases axis <;> exact fun _ => rfl
  cases h with
  | told answer now h => exact h.settles_cons (hcall answer)
  | silent _ now h h' =>
    cases r with
    | ok _ => exact .unstopped (by simp [hcall, Call.failure?.failed])
    | error f => exact .stopped (by simp [hcall, Call.failure?.failed])

theorem Configures.settles {r : Except Failure Unit} (h : Configures c b r calls b') :
    Settles policy r calls := by
  cases h with
  | applied now h => exact h.settles.cons rfl
  | failed f now h => exact h.settles_cons rfl

theorem AppliesConfig.settles {r : Except Failure Unit} (h : AppliesConfig c b r calls b') :
    Settles policy r calls := by
  cases h with
  | converged h now => exact .unstopped rfl
  | needed h now h' =>
    exact h'.settles (fun _ _ _ => Saves.settles) fun _ _ _ _ => Configures.settles

theorem Finishes.settles {hadChanges : Bool} {r : Except Failure Outcome}
    (h : Finishes c b hadChanges r calls b') : Settles policy r calls := by
  cases h with
  | changed h h' => exact h'.settles
  | completed h now h' => exact h'.settles.map _

theorem AppliesAll.settles {r : Except Failure Outcome} (h : AppliesAll c b r calls b') :
    Settles policy r calls :=
  Ending.Then.settles h (fun _ _ _ => ChecksHealth.settles) fun _ _ _ _ h =>
    Ending.Then.settles h (fun _ _ _ => Applies.settles) fun _ _ _ _ h =>
      Ending.Then.settles h (fun _ _ _ => Applies.settles) fun _ _ _ _ h =>
        Ending.Then.settles h (fun _ _ _ => AppliesConfig.settles) fun _ _ _ _ =>
          Finishes.settles

theorem Evaluates.settles {r : Except Failure Outcome} (h : Evaluates c b r calls b') :
    Settles policy r calls := by
  cases h with
  | dryRun h now now' h' => exact h'.settles.map _
  | applied h now now' h' => exact h'.settles

/-- The calls after loading settle the result. What forbids the actions of a diff is found right
after the call that has given it. -/
theorem Proceeds.settles {r : Except Failure Outcome} (h : Proceeds c b policy r calls b') :
    Settles policy r calls := by
  cases h with
  | stopped h =>
    cases h with
    | unknown f now now' h =>
      have hcall : (Call.determine b (.error f)).stop? policy = some f := rfl
      exact (h.settles_cons hcall).error
  | continued h h' =>
    obtain ⟨d, rfl, rfl⟩ := h.eq_of_ok
    cases h' with
    | stopped h' =>
      cases h' with
      | @denied f hdenied _ _ _ h' =>
        have hcall : (Call.determine b (.ok d)).stop? policy = some f :=
          congrArg Call.failure?.failed hdenied
        exact (h'.settles_cons hcall).error
    | continued h' h'' =>
      cases h' with
      | allowed hallowed => exact h''.settles.cons (congrArg Call.failure?.failed hallowed)
      | denied hdenied h' => exact absurd rfl (h'.ne_ok ())

end Step

theorem Collaborators.Passes.settles {σ : Type} {c : Collaborators σ} {policy : ActionPolicy}
    {id : String} {r : Except Failure Outcome} {calls : List Call}
    (h : c.Passes policy id r calls) : Settles policy r calls := by
  cases h with
  | notListed f => exact .stopped rfl
  | several h => exact .unstopped rfl
  | notLoaded h f => exact .stopped rfl
  | loaded h b h' => exact (h'.settles.cons rfl).cons rfl

namespace Reconciler

variable {σ : Type}

/-- **The first failure ends a pass.** If anything that a pass asks for fails, or the actions of its
diff are forbidden, then the pass ends with the first such failure, unless storing this failure
fails too: then it ends with the failure to store. The report tells the failure that the pass ends
with, and this failure decides what happens next. -/
theorem ends_with_first_failure (r : Reconciler σ) (id : String) (s : σ) (f : Failure)
    (hf : ((r.collaborators.traced.runPass r.policy id).run ⟨s, []⟩).2.calls.findSome?
      (Call.stop? r.policy) = some f) :
    ∃ g, ((r.collaborators.runPass r.policy id).run s).1 = .error g ∧
      (r.reconcile id s).1 = ⟨id, none, some g.message, (r.classifier.decide g).1⟩ ∧
      (g = f ∨ Masks r.policy g f
        ((r.collaborators.traced.runPass r.policy id).run ⟨s, []⟩).2.calls) := by
  have hmirror := congrArg Prod.fst (r.collaborators.mirrors_runPass r.policy id ⟨s, []⟩)
  obtain ⟨g, hg, hcases⟩ := (r.collaborators.passes_runPass r.policy id s).settles.of_stopped hf
  have hresult : ((r.collaborators.runPass r.policy id).run s).1 = .error g := hmirror.trans hg
  refine ⟨g, hresult, ?_, hcases⟩
  exact congrArg (Report.ofResult r.classifier id) hresult

/-- A pass that cannot apply its dogus ends with this failure, which is stored. -/
theorem ends_with_failure_to_apply :
    let f : Failure := .internal "disk is full"
    let d : StateDiff := ⟨[⟨"official/ldap", default, default, [.install]⟩], [], []⟩
    let stored : Blueprint := { Blueprint.fresh "a" .plain with version := some ⟨"0"⟩ }
    let s : Rehearsal := ⟨Keyed.empty.put "a" stored, [], 1, .ok ["a"], none, fun _ => none,
      fun _ => .smooth default fun _ => default⟩
    let r : Reconciler Rehearsal := ⟨⟨Rehearsal.repository, ⟨fun _ => return d⟩,
      ⟨fun _ => return (), fun _ => return (), fun _ => Task.fail f, fun _ => return ()⟩,
      fun s => (default, s)⟩, .standard, .standard⟩
    (r.reconcile "a" s).1 = ⟨"a", none, some f.message, .retry f⟩ := by
  intro f d stored s r
  have hf : ((r.collaborators.traced.runPass r.policy "a").run ⟨s, []⟩).2.calls.findSome?
      (Call.stop? r.policy) = some f := rfl
  obtain ⟨g, -, hreport, rfl | ⟨before, u, hcalls, -⟩⟩ := r.ends_with_first_failure "a" s f hf
  · exact hreport
  · have hlast := congrArg (fun calls => calls.getLast?.bind Call.failure?) hcalls
    rw [List.getLast?_concat] at hlast
    cases hlast

/-- The diff cannot be determined, which calls for a retry with backoff. But storing this fails
with a conflict, and so the pass is repeated after a second. -/
theorem masked_by_conflict :
    let f : Failure := .internal "registry unreachable"
    let g : Failure := .conflict "blueprint-1" "modified concurrently"
    let stored : Blueprint := { Blueprint.fresh "blueprint-1" .plain with version := some ⟨"0"⟩ }
    let s : Rehearsal := ⟨Keyed.empty.put "blueprint-1" stored, [], 0, .ok ["blueprint-1"], none,
      fun _ => some g, fun _ => .smooth default fun _ => default⟩
    let r : Reconciler Rehearsal := ⟨⟨Rehearsal.repository, ⟨fun _ => Task.fail f⟩, .refusing,
      fun s => (default, s)⟩, .standard, .standard⟩
    ((r.collaborators.traced.runPass r.policy "blueprint-1").run ⟨s, []⟩).2.calls.findSome?
        (Call.stop? r.policy) = some f ∧
      (r.classifier.decide f).1 = .retry f ∧
      ((r.collaborators.runPass r.policy "blueprint-1").run s).1 = .error g ∧
      (r.reconcile "blueprint-1" s).1
        = ⟨"blueprint-1", none, some g.message, .requeueAfter (.ofSeconds 1)⟩ :=
  ⟨rfl, rfl, rfl, rfl⟩

end Reconciler
end BlueprintControl
