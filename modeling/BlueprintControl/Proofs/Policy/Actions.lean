import BlueprintControl.Policy.Actions

/-!
# Which diffs a policy permits

## Main definitions

* `ActionPolicy.Permits`: no needed action is denied.

## Main statements

* `ActionPolicy.validate_eq_ok_iff`: the diffs that are accepted are those that are permitted.
-/
namespace BlueprintControl.ActionPolicy

/-- No entry needs an action that is denied, but for the switch of a dogu namespace where it is
allowed. -/
structure Permits (p : ActionPolicy) (d : StateDiff) (allowSwitch : Bool) : Prop where
  dogus : ∀ e ∈ d.dogus, ∀ a ∈ e.needed, a ∈ p.deniedDogu →
    a = .switchDoguNamespace ∧ allowSwitch = true
  components : ∀ e ∈ d.components, ∀ a ∈ e.needed, a ∉ p.deniedComponent

theorem denies_eq_false_iff {denied : List Action} {allowSwitch : Bool} {a : Action} :
    denies denied allowSwitch a = false ↔
      (a ∈ denied → a = .switchDoguNamespace ∧ allowSwitch = true) := by
  simp [denies]

theorem offences_eq_nil_iff {kind : String} {denied : List Action} {allowSwitch : Bool}
    {es : List (DiffEntry Snapshot Action)} :
    offences kind denied allowSwitch es = [] ↔
      ∀ e ∈ es, ∀ a ∈ e.needed, denies denied allowSwitch a = false := by
  simp [offences]

variable {p : ActionPolicy} {d : StateDiff} {allowSwitch : Bool}

theorem violations_eq_nil_iff : p.violations d allowSwitch = [] ↔ p.Permits d allowSwitch := by
  rw [violations, List.append_eq_nil_iff, offences_eq_nil_iff, offences_eq_nil_iff]
  simp only [denies_eq_false_iff]
  constructor
  · rintro ⟨hd, hc⟩
    exact ⟨hd, fun e he a ha hdenied => by simpa using hc e he a ha hdenied⟩
  · rintro ⟨hd, hc⟩
    exact ⟨hd, fun e he a ha hdenied => absurd hdenied (hc e he a ha)⟩

theorem validate_eq_ok_iff : p.validate d allowSwitch = .ok () ↔ p.Permits d allowSwitch := by
  rw [← violations_eq_nil_iff, validate]
  split <;> simp_all

theorem exists_of_validate_eq_error {f : Failure} (h : p.validate d allowSwitch = .error f) :
    ∃ message, f = .invalidBlueprint message := by
  unfold validate at h
  split at h
  · cases h
  · cases h
    exact ⟨_, rfl⟩

end BlueprintControl.ActionPolicy
