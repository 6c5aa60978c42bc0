import BlueprintControl.Proofs.Controller.Coalescing
import BlueprintControl.Proofs.Controller.Stuck

/-!
# The statistics of a run

The statistics are written along with the run, and nobody reads them before its end. Here they are
compared with what has happened: the notifications that were let through, the passes that were
started, and the reports they ended with. Every happening moves both sides alike. That passes are
started as often as they are recorded, but for the one in flight, is a matter of the passes at work,
and of the books that agree on them.

## Main definitions

* `Controller.admissions`: the blueprints whose notifications the debouncer admits in a run.
* `Controller.reports`: the reports of the passes of a blueprint that end in a run.
* `Controller.tallied`: what a happening does to the statistics.
* `Controller.Tallies`: the statistics agree with what has happened.

## Main statements

* `summary_step`: a happening counts what `tallied` says.
* `Tallies.step`, `tallies_run`: the statistics agree at every moment.
* `statistics_add_up`: what the statistics say of any run.
-/
namespace BlueprintControl.Controller

/-! ## What has happened -/

/-- The blueprint of the notification that a happening handles, if the debouncer admits it. -/
def admission? (c : Controller) : Happening → Option String
  | .handled => match c.queue.head? with
    | some (.notify key) => if (c.debounce.offer key c.now).1 then some key else none
    | _ => none
  | _ => none

/-- The blueprints whose notifications the debouncer admits in a run, oldest first. -/
def admissions (c : Controller) : List Happening → List String
  | [] => []
  | h :: rest => (c.admission? h).toList ++ (c.step h).controller.admissions rest

/-- The report of a pass of a blueprint that ends by a happening, if one does. -/
def report? (c : Controller) (key : String) : Happening → Option Report
  | .ended other report => if other = key ∧ key ∈ c.working then some report else none
  | _ => none

/-- The reports of the passes of a blueprint that end in a run, oldest first. -/
def reports (c : Controller) (key : String) : List Happening → List Report
  | [] => []
  | h :: rest => (c.report? key h).toList ++ (c.step h).controller.reports key rest

theorem admits_eq_true_iff (c : Controller) (key : String) (h : Happening) :
    c.admits key h = true ↔ c.admission? h = some key := by
  cases h with
  | handled =>
    simp only [admits, admission?, Bool.and_eq_true, beq_iff_eq]
    cases hq : c.queue.head? with
    | none => simp
    | some t =>
      cases t with
      | requeue other => simp
      | notify other =>
        simp only [Option.some.injEq, Trigger.notify.injEq]
        constructor
        · rintro ⟨rfl, ha⟩
          exact if_pos ha
        · intro hadmitted
          split at hadmitted
          case isTrue ha =>
            obtain rfl := Option.some.inj hadmitted
            exact ⟨rfl, ha⟩
          case isFalse => cases hadmitted
  | _ => simp [admits, admission?]

/-- The notifications of a blueprint among those that are admitted. -/
theorem count_admissions (c : Controller) (key : String) (hs : List Happening) :
    (c.admissions hs).count key = c.admitted key hs := by
  induction hs generalizing c with
  | nil => rfl
  | cons h rest ih =>
    have hone : (c.admission? h).toList.count key = (c.admits key h).toNat := by
      by_cases ha : c.admission? h = some key
      · rw [(admits_eq_true_iff c key h).mpr ha, ha]
        simp
      · have hnone : c.admits key h = false :=
          Bool.eq_false_iff.mpr fun hk => ha ((admits_eq_true_iff c key h).mp hk)
        rw [hnone]
        exact List.count_eq_zero.mpr fun hm => ha (by simpa using hm)
    rw [admissions, List.count_append, hone, ih, admitted]

/-! ## What is counted -/

/-- What a happening does to the statistics: a notification that is handled and a pass that ends are
counted. -/
def tallied (c : Controller) : Happening → Summary
  | .handled => match c.queue.head? with
    | some (.notify key) =>
      if (c.debounce.offer key c.now).1 then c.summary.notified else c.summary.notified.refused
    | _ => c.summary
  | .ended key report =>
    if key ∈ c.working then c.summary.finished key report else c.summary
  | _ => c.summary

@[simp] theorem summary_request (c : Controller) (key : String) :
    (c.request key).controller.summary = c.summary := by
  unfold request
  split <;> rfl

@[simp] theorem summary_refuse (c : Controller) (key : String) :
    (c.refuse key).summary = c.summary.refused := by
  rw [refuse_eq]
  split <;> simp

@[simp] theorem summary_finish (c : Controller) (key : String) (r : Report) :
    (c.finish key r).controller.summary = c.summary.finished key r := by
  simp only [finish]
  split
  · rfl
  · simp

/-- A happening counts what it is said to count. -/
theorem summary_step (c : Controller) (h : Happening) :
    (c.step h).controller.summary = c.tallied h := by
  cases h with
  | sent t => rfl
  | elapsed now =>
    simp only [step, tallied]
    split <;> rfl
  | fired number =>
    simp only [step, tallied]
    split <;> rfl
  | handled =>
    cases hq : c.queue with
    | nil => simp [step, tallied, hq]
    | cons t rest =>
      cases t with
      | requeue key => simp [step, tallied, hq, handle]
      | notify key =>
        simp only [step, tallied, hq, handle, List.head?_cons]
        split <;> simp
  | ended key report =>
    simp only [step, tallied, List.contains_iff_mem]
    split <;> simp
  | broke key =>
    simp only [step, tallied]
    split <;> rfl

/-- The statistics of one blueprint are counted along with its reports. -/
theorem summary_of_step (c : Controller) (h : Happening) (key : String) :
    (c.step h).controller.summary.of key
      = (c.report? key h).toList.foldl BlueprintSummary.finished (c.summary.of key) := by
  rw [summary_step]
  cases h with
  | handled =>
    simp only [tallied, report?]
    split
    · split <;> rfl
    · rfl
  | ended other report =>
    simp only [tallied, report?]
    by_cases hw : other ∈ c.working
    · by_cases hk : other = key
      · subst hk
        simp [hw]
      · have hne : ¬ key = other := fun heq => hk heq.symm
        simp [hw, hk, hne]
    · have hnone : ¬ (other = key ∧ key ∈ c.working) := fun hk => hw (hk.1 ▸ hk.2)
      simp [hw, hnone]
  | _ => rfl

/-- A pass that is over is at work no longer, and has left a report. -/
theorem count_working_eq (c : Controller) {h : Happening} (hr : h.Reported) (key : String) :
    c.working.count key = (c.remaining h).count key + (c.report? key h).toList.length := by
  cases h with
  | broke other => exact hr.elim
  | ended other report =>
    simp only [remaining, report?]
    by_cases hk : other = key
    · subst hk
      by_cases hw : other ∈ c.working
      · have hpos : 0 < c.working.count other := List.count_pos_iff.mpr hw
        simp only [hw, and_self, if_true, List.count_erase_self, Option.toList_some,
          List.length_singleton]
        omega
      · simp [hw, List.erase_of_not_mem hw]
    · have hne : key ≠ other := fun heq => hk heq.symm
      simp [hk, List.count_erase_of_ne hne]
  | _ => rfl

/-! ## The statistics agree -/

/-- The statistics agree with the notifications that have been admitted, the passes that have been
started, and the reports of each blueprint. -/
structure Tallies (c : Controller) (admitted started : List String)
    (reported : String → List Report) : Prop where
  notifications : c.summary.notifications = c.summary.debounced + admitted.length
  started : ∀ key, started.count key = (reported key).length + c.working.count key
  passes : ∀ key, (c.summary.of key).passes = (reported key).length
  failures : ∀ key, (c.summary.of key).failures = (reported key).countP (·.error.isSome)

theorem tallies_initial (window : Span) (backoff : Backoff) :
    (initial window backoff).Tallies [] [] fun _ => [] where
  notifications := rfl
  started _ := rfl
  passes _ := rfl
  failures _ := rfl

namespace Tallies

variable {c : Controller} {admitted started : List String} {reported : String → List Report}

theorem notifications_step (hc : c.Tallies admitted started reported) (h : Happening) :
    (c.step h).controller.summary.notifications = (c.step h).controller.summary.debounced
      + (admitted ++ (c.admission? h).toList).length := by
  have hold := hc.notifications
  rw [summary_step]
  cases h with
  | handled =>
    simp only [tallied, admission?]
    split
    case h_1 key hq =>
      split
      case isTrue => simp [Summary.notified, hold, Nat.add_assoc]
      case isFalse =>
        simp [Summary.notified, Summary.refused, hold, Nat.add_right_comm]
    case h_2 => simpa using hold
  | ended key report =>
    simp only [tallied, admission?, Option.toList_none, List.append_nil]
    split <;> exact hold
  | _ => simpa [tallied, admission?] using hold

theorem started_step (hc : c.Tallies admitted started reported) {h : Happening}
    (hr : h.Reported) (key : String) :
    (started ++ (c.step h).started.toList).count key
      = (reported key ++ (c.report? key h).toList).length
        + (c.step h).controller.working.count key := by
  have hold := hc.started key
  have hover := count_working_eq c hr key
  rw [working_step, List.count_append, List.count_append, List.length_append]
  omega

theorem step (hc : c.Tallies admitted started reported) {h : Happening} (hr : h.Reported) :
    (c.step h).controller.Tallies (admitted ++ (c.admission? h).toList)
      (started ++ (c.step h).started.toList)
      (fun key => reported key ++ (c.report? key h).toList) where
  notifications := hc.notifications_step h
  started := hc.started_step hr
  passes key := by
    have hold := hc.passes key
    rw [summary_of_step]
    cases c.report? key h <;> simp [BlueprintSummary.finished, hold]
  failures key := by
    have hold := hc.failures key
    rw [summary_of_step]
    cases c.report? key h with
    | none => simpa using hold
    | some report =>
      by_cases hf : report.error.isSome = true <;>
        simp [BlueprintSummary.finished, List.countP_append, hf, hold]

theorem run (hc : c.Tallies admitted started reported) {hs : List Happening}
    (hr : ∀ h ∈ hs, h.Reported) :
    (c.run hs).1.Tallies (admitted ++ c.admissions hs) (started ++ (c.run hs).2)
      (fun key => reported key ++ c.reports key hs) := by
  induction hs generalizing c admitted started reported with
  | nil => simpa [admissions, reports] using hc
  | cons h rest ih =>
    obtain ⟨hh, hrest⟩ := List.forall_mem_cons.mp hr
    have hafter := ih (hc.step hh) hrest
    simpa only [run_cons, admissions, reports, List.append_assoc] using hafter

end Tallies

theorem tallies_run (window : Span) (backoff : Backoff) {hs : List Happening}
    (hr : ∀ h ∈ hs, h.Reported) :
    ((initial window backoff).run hs).1.Tallies ((initial window backoff).admissions hs)
      ((initial window backoff).run hs).2 (fun key => (initial window backoff).reports key hs) :=
  (tallies_initial window backoff).run hr

theorem Exclusive.count_working {c : Controller} (hc : c.Exclusive) (key : String) :
    c.working.count key = if key ∈ c.inFlight then 1 else 0 := by
  rw [hc.nodup.count]
  exact if_congr (hc.mem_inFlight_iff key).symm rfl rfl

/-- **Statistics add up.** At any moment of a run whose passes end with a report: every notification
was refused or admitted; of each blueprint the passes that were started are those that have ended
and the one in flight, those with an error are counted as failures, and no pass was started without
a notification that was admitted or a requeue that was handled. -/
theorem statistics_add_up (window : Span) (backoff : Backoff) (hs : List Happening)
    (hr : ∀ h ∈ hs, h.Reported) :
    let start := initial window backoff
    let c := (start.run hs).1
    c.summary.notifications = c.summary.debounced + (start.admissions hs).length ∧
    ∀ key,
      (start.run hs).2.count key
        = (c.summary.of key).passes + (if key ∈ c.inFlight then 1 else 0) ∧
      (c.summary.of key).passes = (start.reports key hs).length ∧
      (c.summary.of key).failures = (start.reports key hs).countP (·.error.isSome) ∧
      (start.run hs).2.count key ≤ (start.admissions hs).count key + start.takenUp key hs := by
  intro start c
  have htallies := tallies_run window backoff hr
  have hbooks := exclusive_run (exclusive_initial window backoff) hr
  refine ⟨htallies.notifications, fun key => ⟨?_, htallies.passes key, htallies.failures key, ?_⟩⟩
  · rw [htallies.passes key, ← hbooks.count_working key]
    exact htallies.started key
  · have hle := count_run_le (timekept_initial window backoff) key hs
    have hnone : (initial window backoff).marks key = 0 := by simp [marks, initial]
    rw [hnone, Nat.zero_add] at hle
    rw [count_admissions]
    exact Nat.le_trans (Nat.le_add_right _ _) hle

/-- One notification is refused during a pass that fails. The requeue at the end of the window
starts the next pass, and so does a notification of another blueprint. -/
theorem statistics_after_failure :
    let hs : List Happening := [.sent (.notify "a"), .handled, .sent (.notify "a"), .handled,
      .ended "a" ⟨"a", none, some "no answer", .rest⟩, .elapsed ⟨10 * nanosPerSecond⟩, .fired 0,
      .handled, .sent (.notify "b"), .handled]
    let start := initial (.ofSeconds 10) .standard
    let c := (start.run hs).1
    (∀ h ∈ hs, h.Reported) ∧ c.summary.notifications = 3 ∧ c.summary.debounced = 1 ∧
      start.admissions hs = ["a", "b"] ∧ c.summary.of "a" = ⟨1, 1, some Decision.rest.text⟩ ∧
      start.takenUp "a" hs = 1 ∧ "a" ∈ c.inFlight ∧
      (start.run hs).2.count "a"
        = (c.summary.of "a").passes + (if "a" ∈ c.inFlight then 1 else 0) ∧
      (start.run hs).2.count "a" ≤ (start.admissions hs).count "a" + start.takenUp "a" hs := by
  intro hs
  dsimp only
  have hr : ∀ h ∈ hs, h.Reported := by simp [hs, Happening.Reported]
  obtain ⟨-, hkeys⟩ := statistics_add_up (.ofSeconds 10) .standard hs hr
  obtain ⟨hstarted, -, -, hle⟩ := hkeys "a"
  exact ⟨hr, by decide, by decide, by decide, by decide, by decide, by decide, hstarted, hle⟩

end BlueprintControl.Controller
