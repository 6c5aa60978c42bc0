import BlueprintControl.Proofs.Controller.SingleTimer

/-!
# What happens to one blueprint is nothing to the others

Every happening but the clock is about one blueprint at most, and the entries of all other
blueprints stay as they are.

## Main definitions

* `Controller.subject?`: the blueprint that a happening is about.
* `Controller.Untouched`: two controllers hold the same of a blueprint.

## Main statements

* `untouched_step`: a happening that is about another blueprint, or about none, leaves all that
  belongs to a blueprint as it is.
* `subject?_of_started`: a pass is started by a happening that is about its blueprint.
-/
namespace BlueprintControl.Controller

/-- The blueprint that a happening is about. The clock is about none. -/
def subject? (c : Controller) : Happening → Option String
  | .sent t => some t.key
  | .elapsed _ => none
  | .fired number => (c.timers.find? fun t => t.number == number).map Timer.key
  | .handled => c.queue.head?.map Trigger.key
  | .ended key _ => some key
  | .broke key => some key

/-- The second controller holds of a blueprint what the first one holds, and the settings that
concern all blueprints are the same. -/
structure Untouched (key : String) (c d : Controller) : Prop where
  queue : (d.queue.filter fun t => t.key == key) = c.queue.filter fun t => t.key == key
  working : d.working.count key = c.working.count key
  armed : d.armed key = c.armed key
  inFlight : key ∈ d.inFlight ↔ key ∈ c.inFlight
  dirty : key ∈ d.dirty ↔ key ∈ c.dirty
  scheduled : d.scheduled.find? key = c.scheduled.find? key
  debouncer : d.debounce.debouncers.find? key = c.debounce.debouncers.find? key
  window : d.debounce.window = c.debounce.window
  failures : d.backoff.counts.find? key = c.backoff.counts.find? key
  delay : ∀ n, d.backoff.delay n = c.backoff.delay n
  statistics : d.summary.blueprints.find? key = c.summary.blueprints.find? key

namespace Untouched

variable {c d e : Controller} {key other : String}

theorem refl (key : String) (c : Controller) : Untouched key c c := by
  constructor <;> simp

theorem trans (h : Untouched key c d) (h' : Untouched key d e) : Untouched key c e where
  queue := h'.queue.trans h.queue
  working := h'.working.trans h.working
  armed := h'.armed.trans h.armed
  inFlight := h'.inFlight.trans h.inFlight
  dirty := h'.dirty.trans h.dirty
  scheduled := h'.scheduled.trans h.scheduled
  debouncer := h'.debouncer.trans h.debouncer
  window := h'.window.trans h.window
  failures := h'.failures.trans h.failures
  delay n := (h'.delay n).trans (h.delay n)
  statistics := h'.statistics.trans h.statistics

end Untouched

section Operations

variable {c : Controller} {key other : String} (hne : key ≠ other)
include hne

theorem untouched_request (c : Controller) : Untouched key c (c.request other).controller := by
  unfold request
  split
  case isTrue => exact { Untouched.refl key c with dirty := by simp [hne] }
  case isFalse =>
    exact { Untouched.refl key c with
      working := by simp [start, hne.symm]
      inFlight := by simp [start, hne] }

theorem untouched_arm (c : Controller) (deadline : Moment) :
    Untouched key c (c.arm other deadline) :=
  { Untouched.refl key c with
    armed := by simp [armed, arm, hne.symm]
    scheduled := by simp [arm, hne] }

/-- Only a timer of the other blueprint is replaced. -/
theorem untouched_schedule (hc : c.Timekept) (delay : Span) :
    Untouched key c (c.schedule other delay) := by
  unfold schedule
  split
  case h_1 => exact .refl key c
  case h_2 deadline _ =>
    split
    case h_1 t ht =>
      split
      case isTrue => exact .refl key c
      case isFalse =>
        have he := hc.entry other t ht
        refine Untouched.trans ?_ (untouched_arm hne (c.disarm t.number) deadline)
        refine { Untouched.refl key c with armed := ?_ }
        simp only [armed, disarm, List.filter_filter]
        refine List.filter_congr fun u hu => ?_
        by_cases hk : u.key = key
        · have hn : u.number ≠ t.number := fun hn => by
            rw [he.unique u hu hn] at hk
            exact hne (hk.symm.trans he.key_eq)
          simp [hk, hn]
        · simp [hk]
    case h_2 => exact untouched_arm hne c deadline

theorem untouched_offer (c : Controller) (now : Moment) :
    Untouched key c { c with debounce := (c.debounce.offer other now).2 } :=
  { Untouched.refl key c with
    debouncer := by simp [DebounceRegistry.offer, DebounceRegistry.offerWithin, hne]
    window := rfl }

theorem untouched_collect (c : Controller) : Untouched key c (c.collect other).2 := by
  refine { Untouched.refl key c with debouncer := ?_, window := ?_ }
  all_goals
    simp only [collect_frame, DebounceRegistry.collect]
    split <;> simp [hne]

theorem untouched_follow (hc : c.Timekept) (delay : Option Span) :
    Untouched key c (c.follow other delay) := by
  have hcollected := untouched_collect hne c
  simp only [follow]
  split
  · exact hcollected.trans (untouched_schedule hne (hc.collect other) _)
  · exact hcollected

theorem untouched_refuse (hc : c.Timekept) : Untouched key c (c.refuse other) := by
  have hcounted : Untouched key c { c with summary := c.summary.refused } :=
    { Untouched.refl key c with statistics := rfl }
  rw [refuse_eq]
  split
  · exact hcounted
  · refine hcounted.trans (untouched_follow hne ?_ none)
    exact hc.of_eq rfl rfl rfl fun _ h => h

/-- What the end of a pass does before the next pass is thought of. -/
theorem untouched_leave (c : Controller) (r : Report) :
    Untouched key c { c with
      working := c.working.erase other
      inFlight := c.inFlight.filter fun k => k != other
      backoff := (delayAfter c.backoff other r.decision).2
      summary := c.summary.finished other r } :=
  { Untouched.refl key c with
    working := List.count_erase_of_ne hne
    inFlight := by simp [hne]
    failures := by cases r.decision <;> simp [delayAfter, Backoff.reset, Backoff.next, hne]
    delay := fun n => by cases r.decision <;> rfl
    statistics := by simp [Summary.finished, hne] }

theorem untouched_finish (hc : c.Timekept) (r : Report) :
    Untouched key c (c.finish other r).controller := by
  have hleft := untouched_leave hne c r
  simp only [finish]
  split
  case isTrue =>
    exact { hleft with
      working := by simpa [start, hne.symm] using hleft.working
      inFlight := by simp [start, hne]
      dirty := by simp [start, hne] }
  case isFalse =>
    refine hleft.trans (untouched_follow hne ?_ _)
    exact hc.of_eq rfl rfl rfl fun _ h => h

theorem untouched_fire (hc : c.Timekept) {t : Timer} (ht : t ∈ c.timers) (hk : t.key = other) :
    Untouched key c (c.fire t) := by
  refine { Untouched.refl key c with queue := ?_, armed := ?_ }
  · simp [fire, send, disarm, Trigger.key, hk, hne.symm]
  · simp only [armed, fire, send, disarm, List.filter_filter]
    refine List.filter_congr fun u hu => ?_
    by_cases huk : u.key = key
    · have hn : u.number ≠ t.number := fun hn => by
        rw [hc.unique t ht u hu hn] at huk
        exact hne (huk.symm.trans hk)
      simp [huk, hn]
    · simp [huk]

end Operations

section Steps

variable {c : Controller} {key : String}

/-- Taking a trigger of another blueprint off the queue. -/
theorem untouched_handle {t : Trigger} {rest : List Trigger} (hc : c.Timekept)
    (hq : c.queue = t :: rest) (hne : key ≠ t.key) :
    Untouched key c ({ c with queue := rest }.handle t).controller := by
  have htaken : Untouched key c { c with queue := rest } :=
    { Untouched.refl key c with queue := by simp [hq, hne.symm] }
  refine htaken.trans ?_
  cases t with
  | notify other =>
    have hoffered : Untouched key { c with queue := rest } { c with
        queue := rest
        debounce := (c.debounce.offer other c.now).2
        summary := c.summary.notified } :=
      { untouched_offer hne { c with queue := rest } c.now with statistics := rfl }
    simp only [handle]
    split
    · exact hoffered.trans (untouched_request hne _)
    · refine hoffered.trans (untouched_refuse hne ?_)
      exact hc.of_eq rfl rfl rfl fun k h => by simpa [hq] using h
  | requeue other =>
    have herased : Untouched key { c with queue := rest }
        { c with queue := rest, scheduled := c.scheduled.erase other } :=
      { Untouched.refl key _ with
        scheduled := by simp [show key ≠ other from hne] }
    exact herased.trans (untouched_request hne _)

theorem subject?_fired (hc : c.Timekept) {t : Timer} (ht : t ∈ c.timers) :
    c.subject? (.fired t.number) = some t.key := by
  obtain ⟨u, hu⟩ : ∃ u, (c.timers.find? fun u => u.number == t.number) = some u :=
    Option.isSome_iff_exists.mp (List.find?_isSome.mpr ⟨t, ht, by simp⟩)
  have hsame : u = t := hc.unique t ht u (List.mem_of_find?_eq_some hu)
    (by simpa using List.find?_some hu)
  rw [subject?, hu, hsame]
  rfl

/-- A happening that is not about a blueprint leaves it alone. -/
theorem untouched_step (hc : c.Timekept) {h : Happening} (hs : c.subject? h ≠ some key) :
    Untouched key c (c.step h).controller := by
  have hr := reacts_step c h
  generalize c.step h = r at hr ⊢
  cases hr with
  | idle => exact .refl key c
  | sent t =>
    have hne : t.key ≠ key := fun hk => hs (congrArg some hk)
    exact { Untouched.refl key c with queue := by simp [send, hne] }
  | elapsed hle => exact { Untouched.refl key c with queue := rfl }
  | @fired t ht hd =>
    refine untouched_fire (fun hk => hs ?_) hc ht rfl
    rw [subject?_fired hc ht, hk]
  | handled hq => exact untouched_handle hc hq fun hk => hs (by simp [subject?, hq, hk])
  | ended hw report => exact untouched_finish (fun hk => hs (congrArg some hk.symm)) hc report
  | @broke other hw =>
    have hne : key ≠ other := fun hk => hs (congrArg some hk.symm)
    exact { Untouched.refl key c with working := List.count_erase_of_ne hne }

theorem started_request {other : String} (hs : (c.request other).started = some key) :
    other = key := by
  unfold request at hs
  split at hs
  · cases hs
  · exact Option.some.inj hs

/-- A happening starts passes of its own blueprint only. -/
theorem subject?_of_started {h : Happening} (hs : (c.step h).started = some key) :
    c.subject? h = some key := by
  have hr := reacts_step c h
  generalize c.step h = r at hr hs
  cases hr with
  | idle | sent | elapsed | fired | broke => cases hs
  | @handled t rest hq =>
    rw [subject?, hq]
    refine congrArg some ?_
    cases t with
    | notify other =>
      simp only [handle] at hs
      split at hs
      · exact started_request hs
      · cases hs
    | requeue other => exact started_request hs
  | ended hw report =>
    simp only [finish] at hs
    split at hs
    · exact hs
    · cases hs

end Steps

end BlueprintControl.Controller
