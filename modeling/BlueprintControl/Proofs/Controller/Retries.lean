import BlueprintControl.Proofs.Controller.Exclusion
import BlueprintControl.Proofs.Controller.Timers
import BlueprintControl.Proofs.Scheduling.Backoff

/-!
# Retries are neither lost nor late

The decision on a pass may ask for the next one, after a fixed delay or after one that grows with
the retries in a row. From the end of the pass on, until the next one is started, a timer is armed
that is due by then, or a requeue waits to be handled. Timers may be replaced meanwhile, but only
by timers that are due before.

## Main definitions

* `Decision.retriesInARow`: the retries at the end of a list of decisions.
* `Backoff.delayFor`: the delay that a decision asks for, behind earlier ones.
* `Controller.decided?`, `Controller.decisions`: the decisions on the passes of a blueprint.

## Main statements

* `counts_run`: the backoff counts the retries in a row.
* `AskedBy.run`: who is asked for by a moment stays so until its pass is started.
* `asked_until_started`: what a decision asks for comes in time.
-/
namespace BlueprintControl

namespace Decision

/-- The number of retries in a row at the end of a list of decisions. -/
def retriesInARow (ds : List Decision) : Nat := (ds.reverse.takeWhile isError).length

theorem retriesInARow_concat (ds : List Decision) (d : Decision) :
    retriesInARow (ds ++ [d]) = if d.isError then retriesInARow ds + 1 else 0 := by
  by_cases h : d.isError = true <;> simp [retriesInARow, h]

end Decision

namespace Backoff

variable (b : Backoff) (key : String)

/-- The delay after which a decision asks for the next pass. Before a retry it is the one for as
many failures as there have been retries in a row. -/
def delayFor (earlier : List Decision) : Decision → Option Span
  | .rest => none
  | .requeueAfter d => some d
  | .retry _ => some (b.delay (Decision.retriesInARow earlier))

/-- The backoff remembers the retries in a row of a blueprint. -/
def Counts (past : List Decision) : Prop :=
  b.failures key = min (Decision.retriesInARow past) ceiling

end Backoff

namespace Controller

variable {b : Backoff} {c : Controller} {key other : String} {past : List Decision}

/-! ## Counting retries -/

theorem fst_delayAfter (h : b.Counts key past) (d : Decision) :
    (delayAfter b key d).1 = b.delayFor past d := by
  cases d with
  | retry cause =>
    have hdelay : b.delay (b.failures key) = b.delay (Decision.retriesInARow past) := by
      rw [h, b.delay_min_ceiling]
    exact congrArg some hdelay
  | requeueAfter d => rfl
  | rest => rfl

theorem counts_delayAfter (h : b.Counts key past) (d : Decision) :
    (delayAfter b key d).2.Counts key (past ++ [d]) := by
  unfold Backoff.Counts at h ⊢
  rw [Decision.retriesInARow_concat]
  cases d with
  | retry cause =>
    simp only [delayAfter, Backoff.failures_next, h, Decision.isError, if_true]
    omega
  | requeueAfter d => simp [delayAfter, Decision.isError]
  | rest => simp [delayAfter, Decision.isError]

theorem failures_delayAfter_of_ne (hne : key ≠ other) (d : Decision) :
    (delayAfter b other d).2.failures key = b.failures key := by
  cases d <;> simp [delayAfter, hne]

/-- A decision changes what is counted, and not how long the delays are. -/
theorem delay_delayAfter (d : Decision) (n : Nat) : (delayAfter b key d).2.delay n = b.delay n := by
  cases d <;> rfl

@[simp] theorem backoff_handle (t : Trigger) : (c.handle t).controller.backoff = c.backoff := by
  cases t with
  | notify key =>
    simp only [handle, request, start]
    split
    · split <;> rfl
    · simp
  | requeue key =>
    simp only [handle, request, start]
    split <;> rfl

@[simp] theorem backoff_finish (r : Report) :
    (c.finish key r).controller.backoff = (delayAfter c.backoff key r.decision).2 := by
  simp only [finish, start]
  split
  · rfl
  · simp

/-- The decision on the pass of a blueprint that ends by a happening, if one does. -/
def decided? (c : Controller) (key : String) : Happening → Option Decision
  | .ended other report =>
    if other = key ∧ key ∈ c.working then some report.decision else none
  | _ => none

/-- The decisions on the passes of a blueprint that end in a run, oldest first. -/
def decisions (c : Controller) (key : String) : List Happening → List Decision
  | [] => []
  | h :: rest => (c.decided? key h).toList ++ (c.step h).controller.decisions key rest

theorem counts_step (h : c.backoff.Counts key past) (happening : Happening) :
    (c.step happening).controller.backoff.Counts key
      (past ++ (c.decided? key happening).toList) := by
  cases happening with
  | sent t =>
    simp only [step, decided?, Option.toList_none, List.append_nil]
    exact h
  | elapsed now =>
    simp only [step, decided?, Option.toList_none, List.append_nil]
    split <;> exact h
  | fired number =>
    simp only [step, decided?, Option.toList_none, List.append_nil]
    split <;> exact h
  | handled =>
    simp only [step, decided?, Option.toList_none, List.append_nil]
    split
    · simpa using h
    · exact h
  | ended other report =>
    simp only [step, List.contains_iff_mem, decided?]
    split
    case isTrue hw =>
      rw [backoff_finish]
      by_cases hk : other = key
      · subst hk
        simpa [hw] using counts_delayAfter h report.decision
      · have hne : key ≠ other := fun heq => hk heq.symm
        simpa [Backoff.Counts, hk, failures_delayAfter_of_ne hne] using h
    case isFalse hw =>
      have hnone : ¬ (other = key ∧ key ∈ c.working) := fun hk => hw (hk.1 ▸ hk.2)
      simpa [hnone] using h
  | broke other =>
    simp only [step, decided?, Option.toList_none, List.append_nil]
    split <;> exact h

/-- The backoff counts the retries in a row. -/
theorem counts_run (h : c.backoff.Counts key past) (hs : List Happening) :
    (c.run hs).1.backoff.Counts key (past ++ c.decisions key hs) := by
  induction hs generalizing c past with
  | nil => simpa [decisions] using h
  | cons first rest ih =>
    have hrest := ih (counts_step h first)
    rwa [List.append_assoc] at hrest

theorem delay_step (happening : Happening) (n : Nat) :
    (c.step happening).controller.backoff.delay n = c.backoff.delay n := by
  have hr := reacts_step c happening
  generalize c.step happening = r at hr ⊢
  cases hr with
  | idle | sent | elapsed | fired | broke => rfl
  | handled hq => rw [backoff_handle]
  | ended hw report => rw [backoff_finish, delay_delayAfter]

theorem delay_run (hs : List Happening) (n : Nat) :
    (c.run hs).1.backoff.delay n = c.backoff.delay n := by
  induction hs generalizing c with
  | nil => rfl
  | cons first rest ih => exact ih.trans (delay_step first n)

/-! ## Waiting for the next pass -/

section Waiting

variable {limit : Moment}

/-- A pass that is not started leaves the blueprint without one. -/
theorem not_mem_inFlight_request (hk : key ∉ c.inFlight)
    (hs : (c.request other).started ≠ some key) :
    key ∉ (c.request other).controller.inFlight := by
  unfold request at hs ⊢
  split
  case isTrue => exact hk
  case isFalse hclear =>
    have hne : other ≠ key := by
      rw [if_neg hclear] at hs
      exact fun h => hs (congrArg some h)
    simp only [start, List.mem_insert_iff, not_or]
    exact ⟨hne.symm, hk⟩

theorem not_mem_inFlight_handle (hk : key ∉ c.inFlight) {t : Trigger}
    (hs : (c.handle t).started ≠ some key) : key ∉ (c.handle t).controller.inFlight := by
  cases t with
  | notify other =>
    simp only [handle] at hs ⊢
    split
    case isTrue hadmitted =>
      rw [if_pos hadmitted] at hs
      exact not_mem_inFlight_request hk hs
    case isFalse => simpa using hk
  | requeue other => exact not_mem_inFlight_request hk hs

/-- The end of a pass that is not followed by another one at once leaves the blueprint without
one. -/
theorem not_mem_inFlight_finish (hk : other = key ∨ key ∉ c.inFlight) {r : Report}
    (hs : (c.finish other r).started ≠ some key) :
    key ∉ (c.finish other r).controller.inFlight := by
  have hleft : key ∉ c.inFlight.filter (· != other) := by
    rintro hmem
    obtain ⟨hmem, hne⟩ := List.mem_filter.mp hmem
    rcases hk with heq | hk
    · simp [heq] at hne
    · exact hk hmem
  simp only [finish] at hs ⊢
  split
  case isTrue hdirty =>
    have hne : other ≠ key := by
      rw [if_pos hdirty] at hs
      exact fun h => hs (congrArg some h)
    simp only [start, List.mem_insert_iff, not_or]
    exact ⟨hne.symm, hleft⟩
  case isFalse => simpa using hleft

theorem not_mem_inFlight_step (hk : key ∉ c.inFlight) {h : Happening}
    (hs : (c.step h).started ≠ some key) : key ∉ (c.step h).controller.inFlight := by
  have hr := reacts_step c h
  generalize c.step h = r at hs hr ⊢
  cases hr with
  | idle | sent | elapsed | fired | broke => exact hk
  | handled hq =>
    refine not_mem_inFlight_handle ?_ hs
    exact hk
  | ended hw report => exact not_mem_inFlight_finish (.inr hk) hs

namespace AskedBy

theorem request (ha : c.AskedBy key limit) (other : String) :
    (c.request other).controller.AskedBy key limit := by
  unfold Controller.request
  split <;> exact ha

theorem collect (ha : c.AskedBy key limit) (other : String) :
    (c.collect other).2.AskedBy key limit := ha

theorem follow (ha : c.AskedBy key limit) (hc : c.Timekept) (other : String)
    (delay : Option Span) : (c.follow other delay).AskedBy key limit := by
  simp only [Controller.follow]
  split
  · exact (ha.collect other).schedule (hc.collect other) _ _
  · exact ha.collect other

theorem refuse (ha : c.AskedBy key limit) (hc : c.Timekept) (other : String) :
    (c.refuse other).AskedBy key limit := by
  rw [refuse_eq]
  split
  · exact ha
  · refine AskedBy.follow ?_ ?_ other none
    · exact ha
    · exact hc.of_eq rfl rfl rfl fun _ h => h

theorem finish (ha : c.AskedBy key limit) (hc : c.Timekept) (other : String) (r : Report) :
    (c.finish other r).controller.AskedBy key limit := by
  simp only [Controller.finish]
  split
  · exact ha
  · refine AskedBy.follow ?_ ?_ other _
    · exact ha
    · exact hc.of_eq rfl rfl rfl fun _ h => h

/-- Without a pass in flight, the requeue that is waited for starts the pass. -/
theorem handle {t : Trigger} {rest : List Trigger} (ha : c.AskedBy key limit) (hc : c.Timekept)
    (hq : c.queue = t :: rest) (hk : key ∉ c.inFlight)
    (hs : ({ c with queue := rest }.handle t).started ≠ some key) :
    ({ c with queue := rest }.handle t).controller.AskedBy key limit := by
  have hother : t ≠ .requeue key := by
    rintro rfl
    have hclear : ¬ c.inFlight.contains key = true := by simpa using hk
    rw [Controller.handle, Controller.request, if_neg hclear] at hs
    exact hs rfl
  have hleft : ({ c with queue := rest } : Controller).AskedBy key limit := by
    refine ha.mono (fun _ ht => ht) fun hwait => ?_
    rw [hq, List.mem_cons] at hwait
    exact hwait.resolve_left hother.symm
  cases t with
  | notify other =>
    simp only [Controller.handle]
    split
    · refine AskedBy.request ?_ other
      exact hleft
    · refine AskedBy.refuse ?_ ?_ other
      · exact hleft
      · exact hc.of_eq rfl rfl rfl fun k h => by simpa [hq] using h
  | requeue other =>
    refine AskedBy.request ?_ other
    exact hleft

/-- A happening that starts no pass of the blueprint keeps it asked for by the moment. -/
theorem step (ha : c.AskedBy key limit) (hc : c.Timekept) (hk : key ∉ c.inFlight)
    {h : Happening} (hs : (c.step h).started ≠ some key) :
    (c.step h).controller.AskedBy key limit := by
  have hr := reacts_step c h
  generalize c.step h = r at hs hr ⊢
  cases hr with
  | idle | elapsed | broke => exact ha
  | sent t => exact ha.mono (fun _ ht => ht) (List.mem_append_left _)
  | fired ht hd => exact ha.fire hc ht
  | handled hq => exact ha.handle hc hq hk hs
  | ended hw report => exact ha.finish hc _ report

/-- Who is asked for by a moment stays so until its pass is started. -/
theorem run {hs : List Happening} (ha : c.AskedBy key limit) (hc : c.Timekept)
    (hk : key ∉ c.inFlight) (hn : key ∉ (c.run hs).2) : (c.run hs).1.AskedBy key limit := by
  induction hs generalizing c with
  | nil => exact ha
  | cons h rest ih =>
    rw [run_cons, List.mem_append, not_or] at hn
    have hs : (c.step h).started ≠ some key := fun hstarted => hn.1 (by simp [hstarted])
    exact ih (ha.step hc hk hs) (hc.step h) (not_mem_inFlight_step hk hs) hn.2

end AskedBy

theorem exists_shorter (delay : Span) (other : Option Span) :
    ∃ d, shorter (some delay) other = some d ∧ d.nanos ≤ delay.nanos := by
  cases other with
  | none => exact ⟨delay, rfl, Nat.le_refl _⟩
  | some a => exact ⟨delay.min a, rfl, Span.nanos_min delay a ▸ Nat.min_le_left _ _⟩

/-- What follows a pass is not later than its decision asks for. -/
theorem askedBy_follow (hc : c.Timekept) {delay : Span} (hd : c.now.add? delay = some limit) :
    (c.follow key (some delay)).AskedBy key limit := by
  simp only [follow]
  generalize (if (c.collect key).1.1 = true then some (c.collect key).1.2 else none) = trailing
  obtain ⟨d, hshort, hle⟩ := exists_shorter delay trailing
  have hlimit := Moment.nanos_of_add?_eq_some hd
  have hhorizon := Moment.lt_horizon_of_add?_eq_some hd
  obtain ⟨deadline, hdeadline⟩ : ∃ deadline, c.now.add? d = some deadline :=
    Moment.exists_add?_eq_some (by omega)
  have hbefore := Moment.nanos_of_add?_eq_some hdeadline
  simp only [hshort]
  refine (askedBy_schedule (hc.collect key) hdeadline).imp ?_ fun hwait => hwait
  rintro ⟨t, ht, hk, hdue⟩
  exact ⟨t, ht, hk, by omega⟩

theorem askedBy_finish (hc : c.Timekept) (hcount : c.backoff.Counts key past) {r : Report}
    {delay : Span} (hdelay : c.backoff.delayFor past r.decision = some delay)
    (hd : c.now.add? delay = some limit) (hs : (c.finish key r).started ≠ some key) :
    (c.finish key r).controller.AskedBy key limit := by
  simp only [finish] at hs ⊢
  split
  case isTrue hdirty =>
    rw [if_pos hdirty] at hs
    exact absurd rfl hs
  case isFalse =>
    rw [fst_delayAfter hcount, hdelay]
    refine askedBy_follow ?_ hd
    exact hc.of_eq rfl rfl rfl fun _ h => h

end Waiting

/-- **Retries are neither lost nor late.** A pass ends, and its decision asks for the next one after
a delay: the one it names, or the one for the retries in a row that came before. If this leads to a
moment of the clock, then until the next pass of the blueprint is started a timer of it is armed
that is due by this moment, or a requeue of it waits to be handled. -/
theorem asked_until_started (window base longest : Span) (before after : List Happening)
    (key : String) (report : Report) (delay : Span) (deadline : Moment)
    (hended : key ∈ ((initial window (.make base longest)).run before).1.working)
    (hdelay : (Backoff.make base longest).delayFor
      ((initial window (.make base longest)).decisions key before) report.decision = some delay)
    (hdeadline : ((initial window (.make base longest)).run before).1.now.add? delay
      = some deadline)
    (hstarted : key ∉ (((initial window (.make base longest)).run before).1.run
      (.ended key report :: after)).2) :
    ((initial window (.make base longest)).run (before ++ .ended key report :: after)).1.AskedBy
      key deadline := by
  have hkept := (timekept_initial window (.make base longest)).run before
  have hnone : (initial window (.make base longest)).backoff.Counts key [] := rfl
  have hcount := counts_run hnone before
  have hlength : ((initial window (.make base longest)).run before).1.backoff.delayFor
      ((initial window (.make base longest)).decisions key before) report.decision
        = some delay := by
    rw [← hdelay]
    cases report.decision with
    | retry cause => exact congrArg some (delay_run before _)
    | requeueAfter d => rfl
    | rest => rfl
  rw [run_append]
  revert hended hdeadline hstarted hkept hcount hlength
  generalize ((initial window (.make base longest)).run before).1 = c
  intro hended hdeadline hstarted hkept hcount hlength
  have hstep : c.step (.ended key report) = c.finish key report := by simp [step, hended]
  rw [run_cons, List.mem_append, not_or, hstep] at hstarted
  rw [run_cons, hstep]
  have hs : (c.finish key report).started ≠ some key := fun h => hstarted.1 (by simp [h])
  refine (askedBy_finish hkept hcount hlength hdeadline hs).run (hkept.finish key report) ?_
    hstarted.2
  exact not_mem_inFlight_finish (.inl rfl) hs

/-- The second retry in a row waits for four hundred seconds, and a notification that is refused
meanwhile has the pass come before. -/
theorem asked_by_second_retry :
    let failed : Report := ⟨"a", none, some "down", .retry (.internal "down")⟩
    let before : List Happening := [.sent (.notify "a"), .handled, .ended "a" failed,
      .elapsed ⟨200 * nanosPerSecond⟩, .fired 0, .handled]
    let after : List Happening :=
      [.elapsed ⟨400 * nanosPerSecond⟩, .sent (.notify "a"), .handled]
    ((initial (.ofSeconds 500) (.make (.ofSeconds 200) (.ofSeconds 600))).run
      (before ++ .ended "a" failed :: after)).1.AskedBy "a" ⟨600 * nanosPerSecond⟩ := by
  intro failed before after
  exact asked_until_started (.ofSeconds 500) (.ofSeconds 200) (.ofSeconds 600) before after "a"
    failed (.ofSeconds 400) ⟨600 * nanosPerSecond⟩ (by decide) (by decide) (by decide) (by decide)

end Controller
end BlueprintControl
