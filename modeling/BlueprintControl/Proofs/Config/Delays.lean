import BlueprintControl.Config.Check
import BlueprintControl.Proofs.Scheduling.Backoff

/-!
# Delays of accepted settings

Settings are accepted exactly if nothing is wrong with them. Then the operator is never in a hurry:
every delay that is asked for takes some time, the window of the debouncer is at least a second,
and the delays of the backoff start with the base and stay below the maximum.

## Main definitions

* `RequeueSettings.Sound`, `Settings.Sound`: nothing is wrong.

## Main statements

* `Settings.check_eq_ok_iff`: the settings that are accepted, and their warnings.
* `Settings.delays_of_check`: the delays of accepted settings.
-/
namespace BlueprintControl

variable {warnings : List String}

@[simp] theorem problemIf_eq_nil_iff {bad : Bool} {field message : String} :
    problemIf bad field message = [] ↔ bad = false := by
  cases bad <;> simp [problemIf]

theorem beq_zero_iff {n : UInt64} : (n == 0) = true ↔ n.toNat = 0 := by
  rw [beq_iff_eq, ← UInt64.toNat_inj]
  rfl

theorem beq_zero_eq_false_iff {n : UInt64} : (n == 0) = false ↔ 0 < n.toNat := by
  rw [← Bool.not_eq_true, beq_zero_iff, Nat.pos_iff_ne_zero]

@[simp] theorem delayProblem_eq_nil_iff {field : String} {n : UInt64} :
    delayProblem field n = [] ↔ 0 < n.toNat := by
  rw [delayProblem, problemIf_eq_nil_iff, beq_zero_eq_false_iff]

/-- A product that is out of range is not reached by any number that is in range, so it makes no
difference that it is cut off. -/
theorem thousandfold_lt_iff {n m : UInt64} : thousandfold n < m.toNat ↔ n.toNat * 1000 < m.toNat := by
  have hm := m.toNat_lt
  have hsize : UInt64.size = 2 ^ 64 := rfl
  unfold thousandfold
  omega

/-- A fixed delay is one of the three of the policy. -/
theorem Classifier.delay_of_decide {c : Classifier} {f : Failure} {d : Span}
    (h : (c.decide f).1 = .requeueAfter d) : d = c.policy.conflictDelay ∨
      d = c.policy.retryDelay ∨ d = c.policy.diffNotEmptyDelay := by
  unfold decide at h
  cases hkind : f.kind with
  | notFound retryable => cases retryable <;> simp_all
  | unknown =>
    simp only [hkind] at h
    split at h <;> simp_all
  | _ => simp_all

namespace RequeueSettings

/-- Nothing is wrong with the delays and the markers. -/
structure Sound (r : RequeueSettings) : Prop where
  conflict : 0 < r.conflictMillis.toNat
  retry : 0 < r.retrySeconds.toNat
  diffNotEmpty : 0 < r.diffNotEmptyMillis.toNat
  base : 0 < r.backoffBaseMillis.toNat
  longest : 0 < r.backoffLongestSeconds.toNat
  /-- A maximum that is too long to be told in milliseconds is not below any base. -/
  base_le : r.backoffBaseMillis.toNat ≤ r.backoffLongestSeconds.toNat * 1000
  markers : ∀ m ∈ r.markers, Text.isBlankString m = false

theorem problems_eq_nil_iff (r : RequeueSettings) : r.problems = [] ↔ r.Sound := by
  constructor
  · intro h
    simp only [problems, List.append_eq_nil_iff, delayProblem_eq_nil_iff, problemIf_eq_nil_iff,
      thousandfold_lt_iff, List.any_eq_false, Bool.not_eq_true] at h
    obtain ⟨⟨⟨⟨⟨⟨hconflict, hretry⟩, hdiff⟩, hpositive⟩, hlongest⟩, hle⟩, hmarkers⟩ := h
    have hle := Nat.le_of_not_lt (of_decide_eq_false hle)
    exact ⟨hconflict, hretry, hdiff, hpositive, hlongest, hle, hmarkers⟩
  · intro h
    have hthousand : ¬ thousandfold r.backoffLongestSeconds < r.backoffBaseMillis.toNat := by
      rw [thousandfold_lt_iff]
      exact Nat.not_lt.mpr h.base_le
    simpa [problems, h.conflict, h.retry, h.diffNotEmpty, h.base, h.longest, hthousand]
      using h.markers

/-- Whatever the failure, a fixed delay takes some time. -/
theorem Sound.delay_pos {r : RequeueSettings} (h : r.Sound) {f : Failure} {d : Span}
    (hd : ((Classifier.make r.policy).decide f).1 = .requeueAfter d) : 0 < d.nanos := by
  have hconflict : 0 < (Span.ofMillis r.conflictMillis).nanos := by
    simp [h.conflict]
  have hretry : 0 < (Span.ofSeconds r.retrySeconds).nanos := by
    simp [h.retry, nanosPerSecond]
  have hdiff : 0 < (Span.ofMillis r.diffNotEmptyMillis).nanos := by
    simp [h.diffNotEmpty]
  obtain rfl | rfl | rfl := Classifier.delay_of_decide hd
  · exact hconflict
  · exact hretry
  · exact hdiff

/-- Whatever was done before, the delays of the backoff start with the base and stay below the
maximum. -/
theorem Sound.next_backoff {r : RequeueSettings} (h : r.Sound) (uses : List Backoff.Use)
    (key : String) :
    let delay := ((r.backoff.run uses).next key).1
    0 < delay.nanos ∧ delay.nanos ≤ (Span.ofSeconds r.backoffLongestSeconds).nanos ∧
      (Backoff.failuresInARow key uses = 0 → delay = .ofMillis r.backoffBaseMillis) := by
  intro delay
  have hbase : 0 < r.backoff.base.nanos := by
    simp [backoff, Backoff.make, h.base]
  have hlongest : 0 < r.backoff.longest.nanos := by
    simp [backoff, Backoff.make, h.longest, nanosPerSecond]
  have hle : r.backoff.base.nanos ≤ r.backoff.longest.nanos := by
    have := h.base_le
    simp only [backoff, Backoff.make, Span.nanos_ofMillis, Span.nanos_ofSeconds, nanosPerSecond]
    omega
  have hnew : r.backoff.failures key = 0 := rfl
  have hdelay : delay = r.backoff.delay (Backoff.failuresInARow key uses) :=
    Backoff.fst_next_run hnew uses
  rw [hdelay]
  refine ⟨Backoff.delay_pos hbase hlongest _, Backoff.delay_le_longest _ _, ?_⟩
  intro hfirst
  rw [hfirst, Backoff.delay_zero hle]
  rfl

end RequeueSettings

namespace Settings

variable {s : Settings}

/-- Nothing is wrong with the settings. -/
structure Sound (s : Settings) : Prop where
  ecosystem : Text.isBlankString s.ecosystem = false
  statePath : s.statePath.isEmpty = false
  window_pos : 0 < s.windowSeconds.toNat
  window_le : s.windowSeconds.toNat ≤ longestWindowSeconds.toNat
  requeue : s.requeue.Sound

theorem problems_eq_nil_iff (s : Settings) : s.problems = [] ↔ s.Sound := by
  have hlong : decide (longestWindowSeconds < s.windowSeconds) = false ↔
      s.windowSeconds.toNat ≤ longestWindowSeconds.toNat := by
    rw [decide_eq_false_iff_not, UInt64.lt_iff_toNat_lt, Nat.not_lt]
  simp only [problems, windowProblems, List.append_eq_nil_iff, problemIf_eq_nil_iff,
    beq_zero_eq_false_iff, hlong, RequeueSettings.problems_eq_nil_iff]
  constructor
  · rintro ⟨⟨⟨hecosystem, hpath⟩, hpos, hle⟩, hrequeue⟩
    exact ⟨hecosystem, hpath, hpos, hle, hrequeue⟩
  · intro h
    exact ⟨⟨⟨h.ecosystem, h.statePath⟩, h.window_pos, h.window_le⟩, h.requeue⟩

/-- Settings are accepted exactly if nothing is wrong with them. -/
theorem check_eq_ok_iff : s.check = .ok warnings ↔ s.Sound ∧ warnings = s.warnings := by
  rw [← problems_eq_nil_iff]
  unfold check
  split
  case h_1 hnone => simp [hnone, eq_comm]
  case h_2 hsome => simp [hsome]

/-- **Accepted settings keep the operator from running hot.** A fixed delay takes some time,
whatever the failure; the window is between a second and a day; and the next delay of the backoff
takes some time, is at most the maximum, and is the base if the key has not failed since its last
reset, whatever has been done with this key and with others. -/
theorem delays_of_check (s : Settings) (warnings : List String) (h : s.check = .ok warnings) :
    (∀ f d, ((Classifier.make s.requeue.policy).decide f).1 = .requeueAfter d → 0 < d.nanos) ∧
      (Span.ofSeconds 1).nanos ≤ s.window.nanos ∧
      s.window.nanos ≤ (Span.ofSeconds (24 * 60 * 60)).nanos ∧
      ∀ uses key, let delay := ((s.requeue.backoff.run uses).next key).1
        0 < delay.nanos ∧
          delay.nanos ≤ (Span.ofSeconds s.requeue.backoffLongestSeconds).nanos ∧
          (Backoff.failuresInARow key uses = 0 →
            delay = .ofMillis s.requeue.backoffBaseMillis) := by
  obtain ⟨hsound, -⟩ := check_eq_ok_iff.mp h
  have hpos := hsound.window_pos
  have hle : s.windowSeconds.toNat ≤ 86400 := hsound.window_le
  refine ⟨fun f d hd => hsound.requeue.delay_pos hd, ?_, ?_, hsound.requeue.next_backoff⟩
  · have hone : (Span.ofSeconds 1).nanos = 1000000000 := rfl
    simp only [hone, window, Span.nanos_ofSeconds, nanosPerSecond]
    omega
  · have hday : (Span.ofSeconds (24 * 60 * 60)).nanos = 86400 * 1000000000 := rfl
    simp only [hday, window, Span.nanos_ofSeconds, nanosPerSecond]
    omega

/-- The longest window, and a maximum of the backoff that is too long to be told in milliseconds. -/
theorem delays_of_longest :
    let requeue : RequeueSettings := ⟨1, 1, 1, 18446744073709551615, 18446744073709551615, []⟩
    let s : Settings := ⟨"eco", "state", 86400, requeue, .standard⟩
    s.check = .ok [] ∧
      ((s.requeue.backoff.run [.fail "a", .fail "b", .reset "a"]).next "a").1
        = .ofMillis 18446744073709551615 := by
  intro requeue s
  have hcheck : s.check = .ok [] := by decide
  have hdelays := delays_of_check s [] hcheck
  exact ⟨hcheck, (hdelays.2.2.2 [.fail "a", .fail "b", .reset "a"] "a").2.2 (by decide)⟩

end Settings
end BlueprintControl
