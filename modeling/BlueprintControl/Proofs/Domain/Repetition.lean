import BlueprintControl.Proofs.Domain.DecisionTable

/-!
# Evaluating again

An axis that has been evaluated is settled for the outcome of the evaluation: to evaluate it with
the same outcome again changes nothing and tells nothing. It stays settled whatever is done to the
other conditions and to the other parts of the state diff, so that it does not matter how often, and
among what else, an axis is evaluated.

## Main definitions

* `Operation.Repeats`: evaluating an axis again, or having nothing to do with it.
* `Blueprint.IsSettledFor`: evaluating the axis with this outcome finds nothing to do.

## Main statements

* `Blueprint.isSettledFor_evaluate`, `Blueprint.IsSettledFor.evaluate_eq`: the first evaluation
  settles the axis, and the next one leaves the blueprint alone.
* `Blueprint.IsSettledFor.perform`, `Blueprint.IsSettledFor.performAll`: the axis stays settled.
* `Blueprint.evaluate_idempotent`: evaluating an axis any number of times.
-/
namespace BlueprintControl

/-- The operation evaluates the axis with this outcome, or it has nothing to do with the axis. A new
state diff has these entries for the axis, unless the outcome is an error: then the diff does not
matter. -/
def Operation.Repeats (axis : Axis) (error : Option String)
    (part : List (DiffEntry Snapshot Action)) : Operation → Prop
  | .evaluate a e => a = axis → e = error
  | .completeApply a _ => a ≠ axis
  | .replaceDiff d => error = none → axis.entries d = part
  | _ => True

namespace Blueprint

variable {b : Blueprint} {axis : Axis} {error : Option String} {now : Stamp} {o : Operation}
  {part : List (DiffEntry Snapshot Action)} {history : List (Operation × Stamp)}

/-- Evaluating the axis with this outcome finds nothing to do, given the entries of the axis in the
state diff. -/
structure IsSettledFor (b : Blueprint) (axis : Axis) (error : Option String)
    (part : List (DiffEntry Snapshot Action)) : Prop where
  undetermined : ∀ e, error = some e →
    b.conditions.Says axis.conditionType .unknown Reason.cannotDetermine e
  settled : error = none → b.IsSettled axis
  entries : error = none → axis.entries b.diff = part

theorem isSettledFor_evaluate (b : Blueprint) (axis : Axis) (error : Option String) (now : Stamp) :
    (b.evaluate axis error now).blueprint.IsSettledFor axis error (axis.entries b.diff) := by
  refine ⟨?undetermined, ?settled, fun _ => by simp⟩
  case undetermined =>
    rintro e rfl
    rw [conditions_evaluate_error]
    exact Conditions.says_set
  case settled =>
    rintro rfl
    exact b.isSettled_evaluate axis now

/-- What is done in another lane, or in none, leaves the axis settled. -/
theorem IsSettledFor.congr {b' : Blueprint} (h : b.IsSettledFor axis error part)
    (hfind : b'.conditions.find? axis.conditionType = b.conditions.find? axis.conditionType)
    (hentries : error = none → axis.entries b'.diff = part) : b'.IsSettledFor axis error part := by
  refine ⟨?undetermined, ?settled, hentries⟩
  case undetermined => simpa only [Conditions.Says, hfind] using h.undetermined
  case settled =>
    intro hnone
    have hchanges : axis.hasChanges b'.diff = axis.hasChanges b.diff := by
      simp only [Axis.hasChanges, hentries hnone, h.entries hnone]
    exact (isSettled_congr hfind hchanges).mpr (h.settled hnone)

/-- Of the operations in the lane of the axis only its evaluation is a repetition. -/
theorem eq_evaluate_of_repeats (ho : o.Repeats axis error part)
    (hlane : o.lane = some axis.conditionType) : o = .evaluate axis error := by
  obtain ⟨e, rfl⟩ | ⟨e, rfl⟩ := Operation.lane_eq_conditionType_iff.mp hlane
  · rw [ho rfl]
  · exact absurd rfl ho

theorem entries_perform_of_repeats (ho : o.Repeats axis none part)
    (h : axis.entries b.diff = part) : axis.entries (b.perform now o).blueprint.diff = part := by
  by_cases hnew : ∃ d, o = .replaceDiff d
  · obtain ⟨d, rfl⟩ := hnew
    exact ho rfl
  · rw [diff_perform fun d hd => hnew ⟨d, hd⟩, h]

namespace IsSettledFor

/-- An evaluation that finds nothing to do leaves the blueprint alone. -/
theorem evaluate_eq (h : b.IsSettledFor axis error part) (now : Stamp) :
    (b.evaluate axis error now).blueprint = b := by
  cases error with
  | some e => exact transition_of_says (h.undetermined e rfl) now (.inl rfl)
  | none => exact evaluate_of_isSettled (h.settled rfl) now

theorem changed_eq (h : b.IsSettledFor axis error part) (now : Stamp) :
    (b.evaluate axis error now).changed = false := by
  have hchanged := b.changed_evaluate_iff axis error now
  rw [h.evaluate_eq now] at hchanged
  simpa using hchanged

/-- One operation: either it is the evaluation, which changes nothing, or it is in another lane. -/
theorem perform (h : b.IsSettledFor axis error part) (ho : o.Repeats axis error part)
    (now : Stamp) :
    (b.perform now o).blueprint.IsSettledFor axis error part ∧
      (b.perform now o).blueprint.conditions.find? axis.conditionType
        = b.conditions.find? axis.conditionType := by
  by_cases hlane : o.lane = some axis.conditionType
  · obtain rfl : o = .evaluate axis error := eq_evaluate_of_repeats ho hlane
    have hsame : (b.perform now (.evaluate axis error)).blueprint = b := h.evaluate_eq now
    rw [hsame]
    exact ⟨h, rfl⟩
  · have hfind := b.find?_perform now hlane
    refine ⟨h.congr hfind ?_, hfind⟩
    rintro rfl
    exact entries_perform_of_repeats ho (h.entries rfl)

/-- Any number of operations. -/
theorem performAll (h : b.IsSettledFor axis error part)
    (hall : ∀ p ∈ history, p.1.Repeats axis error part) :
    (b.performAll history).IsSettledFor axis error part ∧
      (b.performAll history).conditions.find? axis.conditionType
        = b.conditions.find? axis.conditionType := by
  induction history generalizing b with
  | nil => exact ⟨h, rfl⟩
  | cons p rest ih =>
    obtain ⟨hfirst, hrest⟩ := List.forall_mem_cons.mp hall
    obtain ⟨hstep, hfind⟩ := h.perform hfirst p.2
    obtain ⟨hrun, hsame⟩ := ih hstep hrest
    exact ⟨hrun, hsame.trans hfind⟩

end IsSettledFor

/-- **Evaluating an axis again changes nothing.** Once an axis has been evaluated, it may be
evaluated with the same outcome any number of times, among operations on other conditions and new
state diffs with the same entries for the axis. At every point the condition of the axis is the one
that the first evaluation left, and evaluating it there says that nothing changed and leaves the
blueprint alone, pending events included. -/
theorem evaluate_idempotent (b : Blueprint) (axis : Axis) (error : Option String) (now : Stamp)
    (h : ∀ p ∈ history, p.1.Repeats axis error (axis.entries b.diff)) :
    let first := (b.evaluate axis error now).blueprint
    ∀ early, early <+: history → ∀ time,
      let before := first.performAll early
      let again := before.evaluate axis error time
      before.conditions.find? axis.conditionType = first.conditions.find? axis.conditionType ∧
        again.changed = false ∧ again.blueprint = before := by
  intro first early hearly time before again
  have hfirst : first.IsSettledFor axis error (axis.entries b.diff) :=
    b.isSettledFor_evaluate axis error now
  have hrepeats : ∀ p ∈ early, p.1.Repeats axis error (axis.entries b.diff) :=
    fun p hp => h p (hearly.subset hp)
  obtain ⟨hbefore, hfind⟩ := hfirst.performAll hrepeats
  exact ⟨hfind, hbefore.changed_eq time, hbefore.evaluate_eq time⟩

/-- A new blueprint with a dogu to be installed. -/
def expectant : Blueprint :=
  { fresh "blueprint-1" .plain with
    diff := ⟨[⟨"official/cas", default, default, [.install]⟩], [], []⟩ }

/-- The dogus are found waiting, and still are after all that happens to the other axes. -/
theorem idempotent_among_others :
    let history : List (Operation × Stamp) :=
      [(.evaluate .components (some "timeout"), default),
        (.replaceDiff ⟨expectant.diff.dogus, [⟨"k8s/k8s-longhorn", default, default, [.upgrade]⟩], []⟩,
          default),
        (.evaluate .dogus none, default), (.completeApply .components none, default),
        (.startConfig, default), (.complete, default)]
    (∀ p ∈ history, p.1.Repeats .dogus none (Axis.dogus.entries expectant.diff)) ∧
      let before := (expectant.evaluate .dogus none default).blueprint.performAll history
      before.conditions.Says .dogusApplied .fails Reason.needToApply "dogus need to be applied" ∧
        (before.evaluate .dogus none default).blueprint = before := by
  intro history
  have hrepeats : ∀ p ∈ history, p.1.Repeats .dogus none (Axis.dogus.entries expectant.diff) := by
    simp [history, Operation.Repeats, Axis.entries]
  obtain ⟨hfind, -, hsame⟩ :=
    evaluate_idempotent expectant .dogus none default hrepeats history List.prefix_rfl default
  exact ⟨hrepeats, ⟨default, hfind.trans rfl⟩, hsame⟩

end Blueprint
end BlueprintControl
