import BlueprintControl.Proofs.Config.Delays

/-!
# What is asked of settings

Settings have to meet eleven requirements, and a refusal names all that they do not meet. A requirement
is said here of what the settings mean: a text is blank if it holds blanks only, and the base of the
backoff is compared with its maximum in numbers without a bound.

## Main definitions

* `Requirement`, `Requirement.all`: what is asked, in the order in which it is checked.
* `Settings.Violates`: a requirement is not met.
* `Requirement.problem`: what is said of it then.

## Main statements

* `Settings.problems_eq_reported`: the problems are those of the requirements that are not met.
* `Settings.check_exact`: what is refused, and what is said about it.
-/
namespace BlueprintControl

/-- A setting that is a delay. -/
inductive DelaySetting where
  | conflict
  | retry
  | diffNotEmpty
  | backoffBase
  | backoffLongest
  deriving DecidableEq

namespace DelaySetting

def value (r : RequeueSettings) : DelaySetting → UInt64
  | .conflict => r.conflictMillis
  | .retry => r.retrySeconds
  | .diffNotEmpty => r.diffNotEmptyMillis
  | .backoffBase => r.backoffBaseMillis
  | .backoffLongest => r.backoffLongestSeconds

def field : DelaySetting → String
  | .conflict => "requeue.conflict_delay_ms"
  | .retry => "requeue.retry_delay_secs"
  | .diffNotEmpty => "requeue.diff_not_empty_delay_ms"
  | .backoffBase => "requeue.error_backoff_base_ms"
  | .backoffLongest => "requeue.error_backoff_max_secs"

end DelaySetting

/-- What is asked of settings. -/
inductive Requirement where
  /-- The namespace is not blank. -/
  | ecosystem
  /-- The state is kept somewhere. -/
  | statePath
  /-- The window of the debouncer is not zero. -/
  | windowPositive
  /-- The window of the debouncer is a day at most. -/
  | windowBounded
  /-- A delay takes some time. -/
  | delay (d : DelaySetting)
  /-- The backoff does not start above its maximum. -/
  | backoffOrder
  /-- No marker is blank. -/
  | markers
  deriving DecidableEq

namespace Requirement

/-- All requirements, in the order in which they are checked. -/
def all : List Requirement :=
  [.ecosystem, .statePath, .windowPositive, .windowBounded, .delay .conflict, .delay .retry,
    .delay .diffNotEmpty, .delay .backoffBase, .delay .backoffLongest, .backoffOrder, .markers]

theorem nodup_all : all.Nodup := by decide

theorem mem_all (r : Requirement) : r ∈ all := by
  cases r with
  | delay d => cases d <;> decide
  | _ => decide

/-- What is said of a requirement that is not met. -/
def problem (s : Settings) : Requirement → Problem
  | .ecosystem => ⟨"namespace", "Namespace cannot be empty"⟩
  | .statePath => ⟨"state.path", "State path cannot be empty"⟩
  | .windowPositive => ⟨"debounce.window_secs", "Debounce window must be at least 1 second"⟩
  | .windowBounded => ⟨"debounce.window_secs", "Debounce window must not exceed 86400 seconds"⟩
  | .delay d => ⟨d.field, "Delay must be greater than zero"⟩
  | .backoffOrder => ⟨"requeue.error_backoff_base_ms",
      "Backoff base (" ++ toString s.requeue.backoffBaseMillis
        ++ "ms) exceeds the backoff maximum (" ++ toString s.requeue.backoffLongestSeconds ++ "s)"⟩
  | .markers => ⟨"requeue.missing_resource_markers", "Markers cannot be empty strings"⟩

end Requirement

/-- A text holds blanks only, if it holds anything. -/
def Text.Blank (t : String) : Prop := ∀ c ∈ t.toList, Text.isBlank c = true

-- By name: another instance for this type goes through all characters, not those of the text.
instance : DecidablePred Text.Blank := fun t => List.decidableBAll _ t.toList

theorem Text.isBlankString_iff {t : String} : Text.isBlankString t = true ↔ Text.Blank t :=
  List.all_eq_true

namespace Settings

variable {s : Settings} {r : Requirement}

/-- The settings do not meet a requirement. -/
def Violates (s : Settings) : Requirement → Prop
  | .ecosystem => Text.Blank s.ecosystem
  | .statePath => s.statePath = ""
  | .windowPositive => s.windowSeconds.toNat = 0
  | .windowBounded => 86400 < s.windowSeconds.toNat
  | .delay d => (d.value s.requeue).toNat = 0
  | .backoffOrder =>
    s.requeue.backoffLongestSeconds.toNat * 1000 < s.requeue.backoffBaseMillis.toNat
  | .markers => ∃ m ∈ s.requeue.markers, Text.Blank m

instance (s : Settings) : DecidablePred s.Violates
  | .ecosystem => inferInstanceAs (Decidable (Text.Blank _))
  | .statePath => inferInstanceAs (Decidable (_ = _))
  | .windowPositive => inferInstanceAs (Decidable (_ = _))
  | .windowBounded => inferInstanceAs (Decidable (_ < _))
  | .delay _ => inferInstanceAs (Decidable (_ = _))
  | .backoffOrder => inferInstanceAs (Decidable (_ < _))
  | .markers => inferInstanceAs (Decidable (∃ _ ∈ _, _))

/-- The problems of those requirements that are not met. -/
def reported (s : Settings) (rs : List Requirement) : List Problem :=
  (rs.filter (s.Violates ·)).map (Requirement.problem s)

/-- A check finds the problem of a requirement if it finds out that this is not met. -/
theorem reported_cons {bad : Bool} (h : bad = true ↔ s.Violates r) (rs : List Requirement) :
    s.reported (r :: rs)
      = problemIf bad (r.problem s).field (r.problem s).message ++ s.reported rs := by
  cases bad with
  | true =>
    have hviolated : s.Violates r := h.mp rfl
    simp [reported, problemIf, hviolated]
  | false =>
    have hmet : ¬ s.Violates r := fun hviolated => Bool.false_ne_true (h.mpr hviolated)
    simp [reported, problemIf, hmet]

/-- The problems of settings are those of the requirements that they do not meet, in order. -/
theorem problems_eq_reported (s : Settings) : s.problems = s.reported Requirement.all := by
  have hecosystem : Text.isBlankString s.ecosystem = true ↔ s.Violates .ecosystem :=
    Text.isBlankString_iff
  have hpath : s.statePath.isEmpty = true ↔ s.Violates .statePath := String.isEmpty_iff
  have hpositive : (s.windowSeconds == 0) = true ↔ s.Violates .windowPositive := beq_zero_iff
  have hbounded : decide (longestWindowSeconds < s.windowSeconds) = true ↔
      s.Violates .windowBounded := by
    rw [decide_eq_true_eq, UInt64.lt_iff_toNat_lt]
    rfl
  have hdelay : ∀ d : DelaySetting,
      (d.value s.requeue == 0) = true ↔ s.Violates (.delay d) := fun _ => beq_zero_iff
  have horder : decide (thousandfold s.requeue.backoffLongestSeconds
      < s.requeue.backoffBaseMillis.toNat) = true ↔ s.Violates .backoffOrder :=
    decide_eq_true_iff.trans thousandfold_lt_iff
  have hmarkers : s.requeue.markers.any Text.isBlankString = true ↔ s.Violates .markers := by
    simp only [List.any_eq_true, Text.isBlankString_iff, Violates]
  rw [Requirement.all, reported_cons hecosystem, reported_cons hpath, reported_cons hpositive,
    reported_cons hbounded, reported_cons (hdelay .conflict), reported_cons (hdelay .retry),
    reported_cons (hdelay .diffNotEmpty), reported_cons (hdelay .backoffBase),
    reported_cons (hdelay .backoffLongest), reported_cons horder, reported_cons hmarkers]
  have hday : "Debounce window must not exceed " ++ toString longestWindowSeconds ++ " seconds"
      = "Debounce window must not exceed 86400 seconds" := by decide +kernel
  have hnone : s.reported [] = [] := rfl
  simp only [problems, windowProblems, RequeueSettings.problems, delayProblem, List.append_assoc,
    hday, hnone, List.append_nil, Requirement.problem, DelaySetting.value, DelaySetting.field]

/-- What comes of settings that do not meet these requirements. -/
def verdict (s : Settings) : List Requirement → Except ConfigFailure (List String)
  | [] => .ok s.warnings
  | r :: rs => .error (.validation
      ("; ".intercalate ((r :: rs).map fun q => (q.problem s).field ++ ": " ++ (q.problem s).message))
      (some (r.problem s).field))

theorem check_of_problems {report : List Requirement}
    (h : s.problems = report.map (Requirement.problem s)) : s.check = s.verdict report := by
  unfold check
  rw [h]
  cases report with
  | nil => rfl
  | cons r rs => simp only [List.map_cons, List.map_map, verdict, Function.comp_def]

/-- **Settings are refused exactly if they do not meet what is asked.** This is that the namespace
and the markers are not blank, that the state has a path, that the window is between a second and a
day, that no delay is zero, and that the base of the backoff is not above its maximum, where both
are compared as numbers without a bound. A refusal lists each requirement that is not met once, in
the order in which they are checked, and its field is that of the first one. -/
theorem check_exact (s : Settings) :
    ((∃ f, s.check = .error f) ↔ ∃ r, s.Violates r) ∧
      ∃ report : List Requirement, report.Sublist Requirement.all ∧ report.Nodup ∧
        (∀ r, r ∈ report ↔ s.Violates r) ∧ s.check = s.verdict report := by
  let report := Requirement.all.filter (s.Violates ·)
  have hmem : ∀ r, r ∈ report ↔ s.Violates r := fun r => by simp [report, Requirement.mem_all]
  have hcheck : s.check = s.verdict report := check_of_problems s.problems_eq_reported
  have hsublist : report.Sublist Requirement.all := List.filter_sublist
  refine ⟨?fails, report, hsublist, hsublist.nodup Requirement.nodup_all, hmem, hcheck⟩
  rw [hcheck]
  cases hreport : report with
  | nil =>
    have hmet : ¬ ∃ r, s.Violates r := by
      rintro ⟨r, hr⟩
      have hin := (hmem r).mpr hr
      simp [hreport] at hin
    exact iff_of_false nofun hmet
  | cons r rs =>
    have hr : s.Violates r := (hmem r).mp (by simp [hreport])
    exact iff_of_true ⟨_, rfl⟩ ⟨r, hr⟩

/-- The base is just above the longest maximum that can be told in milliseconds, and the namespace and
a marker are blank: three requirements are not met. -/
example :
    let requeue : RequeueSettings := ⟨1, 1, 1, 18446744073709551001, 18446744073709551, ["\u3000"]⟩
    let s : Settings := ⟨" ", "state", 86400, requeue, .standard⟩
    Requirement.all.filter (s.Violates ·) = [.ecosystem, .backoffOrder, .markers] := by
  decide

end Settings
end BlueprintControl
