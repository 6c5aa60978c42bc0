import BlueprintControl.Domain.Operation
import BlueprintControl.Proofs.Domain.Conditions

/-!
# What an operation can do

Every operation on a blueprint is of one of four kinds: it leaves the conditions alone, it writes
an admitted condition of another type than `Completed`, it completes the blueprint, or it forgets
the pending events. All but the last only append events.

## Main definitions

* `Blueprint.Change`: the four kinds.
* `Blueprint.appended`, `Blueprint.recorded`: the events that operations record.
* `Blueprint.completedAt`: when the blueprint was completed.

## Main statements

* `Blueprint.change_perform`: every operation is of one of these kinds.
* `Blueprint.admissible_perform`: operations keep conditions admissible.
* `Blueprint.evaluate_log`: an axis with admissible conditions is evaluated as expected.
* `Blueprint.pending_perform`: operations append events.
* `Blueprint.Follows.perform`: a blueprint is completed once.
-/
namespace BlueprintControl.Blueprint

variable {b b' : Blueprint} {now : Stamp} {o : Operation}

/-- A transition writes its condition, whatever becomes of its event. -/
@[simp] theorem conditions_transition (b : Blueprint) (t : ConditionType) (s : Status)
    (reason message : String) (now : Stamp) (always : Bool) (event : Option Event) :
    (b.transition t s reason message now always event).blueprint.conditions
      = b.conditions.set t s reason message now := by
  simp only [transition]
  split
  · split <;> rfl
  · rfl

/-- A transition appends its event if it changes something, or if it is to be told in any case. -/
theorem pending_transition (b : Blueprint) (t : ConditionType) (s : Status)
    (reason message : String) (now : Stamp) (always : Bool) (event : Option Event) :
    (b.transition t s reason message now always event).blueprint.pending
      = b.pending ++ if b.conditions.changes t s reason || always then event.toList else [] := by
  cases event with
  | none => simp [transition]
  | some e =>
    simp only [transition]
    split
    · rfl
    · simp

theorem shows_completeApply (b : Blueprint) (axis : Axis) (now : Stamp) :
    (b.completeApply axis none now).blueprint.conditions.Shows axis.conditionType .holds
      Reason.applied := by
  simp only [completeApply, conditions_transition]
  exact Conditions.shows_set

/-! ## Kinds of operations -/

/-- What an operation can make of a blueprint. -/
inductive Change (b : Blueprint) (now : Stamp) : Operation → Blueprint → Prop where
  | kept {o : Operation} {b' : Blueprint} (new : List Event) (ho : o ≠ .drain)
      (hc : b'.conditions = b.conditions) (hp : b'.pending = b.pending ++ new)
      (hn : Event.completed ∉ new) : Change b now o b'
  | wrote {o : Operation} {b' : Blueprint} (t : ConditionType) (s : Status)
      (reason message : String) (new : List Event) (ho : o ≠ .drain) (ht : t ≠ .completed)
      (hs : (s, reason) ∈ t.admitted)
      (hc : b'.conditions = b.conditions.set t s reason message now)
      (hp : b'.pending = b.pending ++ new) (hn : Event.completed ∉ new) : Change b now o b'
  | completed {b' : Blueprint} (message : String)
      (hc : b'.conditions
        = b.conditions.set .completed .holds Reason.completed message now)
      (hp : b'.pending = if b.conditions.changes .completed .holds Reason.completed
        then b.pending ++ [.completed] else b.pending) : Change b now .complete b'
  | drained {b' : Blueprint} (hc : b'.conditions = b.conditions) (hp : b'.pending = []) :
      Change b now .drain b'

theorem change_record {e : Event} (ho : o ≠ .drain) (he : e ≠ .completed) :
    Change b now o (b.record e) :=
  .kept [e] ho rfl rfl (by simpa using he.symm)

theorem change_transition {t : ConditionType} {s : Status} {reason message : String} {always : Bool}
    {event : Option Event} (ho : o ≠ .drain) (ht : t ≠ .completed) (hs : (s, reason) ∈ t.admitted)
    (he : event ≠ some .completed) :
    Change b now o (b.transition t s reason message now always event).blueprint := by
  refine .wrote t s reason message _ ho ht hs (conditions_transition ..) (pending_transition ..) ?_
  split
  · simpa using he
  · exact List.not_mem_nil

theorem change_evaluate (ho : o ≠ .drain) (axis : Axis) (error : Option String) :
    Change b now o (b.evaluate axis error now).blueprint := by
  have htype : axis.conditionType ≠ .completed := by cases axis <;> decide
  have hadmitted : axis.conditionType.admitted = ConditionType.dogusApplied.admitted := by
    cases axis <;> rfl
  unfold evaluate
  split
  case h_1 e => exact change_transition ho htype (hadmitted ▸ by decide) (by simp)
  case h_2 =>
    simp only
    split
    case h_1 => exact change_transition ho htype (hadmitted ▸ by decide) (by simp)
    case h_2 => exact change_transition ho htype (hadmitted ▸ by decide) (by simp)
    all_goals exact .kept [] ho rfl (by simp) (by simp)

theorem change_completeApply (ho : o ≠ .drain) (axis : Axis) (error : Option String) :
    Change b now o (b.completeApply axis error now).blueprint := by
  have htype : axis.conditionType ≠ .completed := by cases axis <;> decide
  have hadmitted : axis.conditionType.admitted = ConditionType.dogusApplied.admitted := by
    cases axis <;> rfl
  unfold completeApply
  split
  case h_1 e => exact change_transition ho htype (hadmitted ▸ by decide) (by simp)
  case h_2 => exact change_transition ho htype (hadmitted ▸ by decide) (by split <;> simp)

/-- Every operation is of one of the four kinds. -/
theorem change_perform (b : Blueprint) (now : Stamp) (o : Operation) :
    Change b now o (b.perform now o).blueprint := by
  cases o with
  | evaluate axis error => exact change_evaluate (by simp) axis error
  | completeApply axis error => exact change_completeApply (by simp) axis error
  | startConfig => exact change_transition (by simp) (by simp) (by decide) (by simp)
  | failConfig error => exact change_transition (by simp) (by simp) (by decide) (by simp)
  | finishConfig => exact change_transition (by simp) (by simp) (by decide) (by simp)
  | complete =>
    refine .completed "blueprint was successfully applied" (conditions_transition ..) ?_
    simp only [perform, complete, pending_transition, Bool.or_false]
    split
    · rfl
    · simp
  | rejectActions error => exact change_record (by simp) (by simp)
  | rejectUnhealthy error => exact change_record (by simp) (by simp)
  | replaceDiff diff => exact .kept [] (by simp) rfl (by simp [perform]) (by simp)
  | drain => exact .drained rfl rfl

/-! ## Admissible conditions -/

/-- Operations keep conditions admissible. -/
theorem admissible_perform (h : b.conditions.Admissible) (now : Stamp) (o : Operation) :
    (b.perform now o).blueprint.conditions.Admissible := by
  cases change_perform b now o with
  | kept new ho hc hp hn => exact hc ▸ h
  | wrote t s reason message new ho ht hs hc hp hn => exact hc ▸ h.set hs
  | completed message hc hp => exact hc ▸ h.set (by decide)
  | drained hc hp => exact hc ▸ h

/-- An axis with an admitted condition is in one of the states of the decision table. -/
theorem target_ne_unexpected (h : b.conditions.Admissible) (axis : Axis) (changes : Bool) :
    target (b.conditions.find? axis.conditionType) changes ≠ .unexpected := by
  cases hc : b.conditions.find? axis.conditionType with
  | none => simp [target]
  | some c =>
    have hadmitted := h.of_find? hc
    cases axis <;>
      simp only [Axis.conditionType, ConditionType.admitted, List.mem_cons, Prod.mk.injEq,
        List.not_mem_nil, or_false] at hadmitted
    all_goals
      obtain ⟨hs, hr⟩ | ⟨hs, hr⟩ | ⟨hs, hr⟩ | ⟨hs, hr⟩ | ⟨hs, hr⟩ := hadmitted <;>
        cases changes <;> simp [target, hs, hr] <;> decide

/-- Evaluating an axis with admissible conditions has nothing to complain about. -/
theorem evaluate_log (h : b.conditions.Admissible) (axis : Axis) (error : Option String)
    (now : Stamp) : (b.evaluate axis error now).log = [] := by
  have htarget := target_ne_unexpected h axis (axis.hasChanges b.diff)
  unfold evaluate
  split
  case h_1 => rfl
  case h_2 =>
    simp only
    split <;> first | rfl | contradiction

/-! ## Pending events -/

/-- The events that an operation records: those behind the ones that have been pending before. -/
def appended (b : Blueprint) (now : Stamp) (o : Operation) : List Event :=
  (b.perform now o).blueprint.pending.drop b.pending.length

/-- Operations append events, unless they forget them. -/
theorem pending_perform (h : o ≠ .drain) :
    (b.perform now o).blueprint.pending = b.pending ++ b.appended now o := by
  obtain ⟨new, hp⟩ : ∃ new, (b.perform now o).blueprint.pending = b.pending ++ new := by
    cases change_perform b now o with
    | kept new ho hc hp hn => exact ⟨new, hp⟩
    | wrote t s reason message new ho ht hs hc hp hn => exact ⟨new, hp⟩
    | completed message hc hp =>
      split at hp
      · exact ⟨[.completed], hp⟩
      · exact ⟨[], by simpa using hp⟩
    | drained hc hp => exact absurd rfl h
  rw [appended, hp, List.drop_left]

/-- The events that operations record, whether or not they are forgotten later on. -/
def recorded (b : Blueprint) : List (Operation × Stamp) → List Event
  | [] => []
  | (o, now) :: rest => b.appended now o ++ (b.perform now o).blueprint.recorded rest

/-! ## Completion -/

/-- When the blueprint was completed, if it has been. -/
def completedAt (cs : Conditions) : Option Stamp := (cs.find? .completed).map Condition.since

/-- A blueprint that was read when it had been completed at this time, if at all: it still has that
time, and tells of a completion only if it had not been completed and is now. -/
structure Follows (b : Blueprint) (read : Option Stamp) : Prop where
  kept : ∀ since, read = some since → completedAt b.conditions = some since
  told : b.pending.count .completed
    ≤ if read = none ∧ (completedAt b.conditions).isSome then 1 else 0

theorem completedAt_set_of_ne {cs : Conditions} {t : ConditionType} {s : Status}
    {reason message : String} (h : t ≠ .completed) :
    completedAt (cs.set t s reason message now) = completedAt cs := by
  rw [completedAt, completedAt, Conditions.find?_set_of_ne h.symm]

theorem follows_fresh {id : String} {config : BlueprintConfig} : (fresh id config).Follows none :=
  ⟨fun _ h => (nomatch h), Nat.zero_le _⟩

/-- A blueprint is completed for the first time when there is no such condition yet. -/
theorem Follows.first {read : Option Stamp} {message : String} (h : b.Follows read)
    (hfind : b.conditions.find? .completed = none)
    (hc : b'.conditions = b.conditions.set .completed .holds Reason.completed message now)
    (hp : b'.pending = b.pending ++ [.completed]) : b'.Follows read := by
  have hnot : completedAt b.conditions = none := by simp [completedAt, hfind]
  have hread : read = none := by
    cases read with
    | none => rfl
    | some since => exact absurd (h.kept since rfl) (by simp [hnot])
  have htold : b.pending.count .completed = 0 := by simpa [hread, hnot] using h.told
  have hnow : (completedAt b'.conditions).isSome := by simp [hc, completedAt]
  refine ⟨fun since hs => absurd (hread.symm.trans hs) (by simp), ?_⟩
  simp [hp, htold, hread, hnow]

/-- Completing a blueprint again changes nothing but a message. -/
theorem completedAt_set_again {cs : Conditions} {c : Condition} (ha : cs.Admissible)
    (hfind : cs.find? .completed = some c) (message : String) (now : Stamp) :
    cs.changes .completed .holds Reason.completed = false ∧
      completedAt (cs.set .completed .holds Reason.completed message now) = completedAt cs := by
  obtain ⟨hs, hr⟩ : c.status = .holds ∧ c.reason = Reason.completed := by
    simpa [ConditionType.admitted] using ha.of_find? hfind
  refine ⟨by simp [Conditions.changes, hfind, Condition.differs, hs, hr], ?_⟩
  have hsince := c.since_revise_self message now
  rw [hs, hr] at hsince
  simp [completedAt, hfind, Conditions.written, hsince]

/-- One operation: a completed blueprint stays as it is. -/
theorem Follows.perform {read : Option Stamp} (h : b.Follows read) (ha : b.conditions.Admissible)
    (now : Stamp) (o : Operation) : (b.perform now o).blueprint.Follows read := by
  cases change_perform b now o with
  | kept new ho hc hp hn =>
    refine ⟨hc ▸ h.kept, ?_⟩
    simpa [hc, hp, List.count_eq_zero.mpr hn] using h.told
  | wrote t s reason message new ho ht hs hc hp hn =>
    refine ⟨by simpa [hc, completedAt_set_of_ne ht] using h.kept, ?_⟩
    simpa [hc, hp, List.count_eq_zero.mpr hn, completedAt_set_of_ne ht] using h.told
  | completed message hc hp =>
    cases hfind : b.conditions.find? .completed with
    | none =>
      have hchanges : b.conditions.changes .completed .holds Reason.completed = true := by
        simp [Conditions.changes, hfind]
      exact h.first hfind hc (by rw [hp, if_pos hchanges])
    | some c =>
      obtain ⟨hchanges, hsame⟩ := completedAt_set_again ha hfind message now
      rw [hchanges] at hp
      exact ⟨by simpa [hc, hsame] using h.kept, by simpa [hc, hp, hsame] using h.told⟩
  | drained hc hp => exact ⟨hc ▸ h.kept, by simp [hp]⟩

end BlueprintControl.Blueprint
