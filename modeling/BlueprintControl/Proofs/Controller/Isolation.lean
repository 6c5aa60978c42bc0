import BlueprintControl.Proofs.Controller.Debouncers
import BlueprintControl.Proofs.Controller.Locality

/-!
# A blueprint does not notice the others

From a run with many blueprints the run of one of them alone is made by leaving out whatever is
about the others. The timers that are left are numbered anew; apart from these numbers the
controller holds the same of the blueprint at every moment, and starts its passes at the same
moments.

## Main definitions

* `Controller.alone`: a run with what is about the other blueprints left out.
* `Controller.Alone`: what a controller holds of a blueprint is all that another one holds.
* `Controller.starts`: the moments at which passes of a blueprint are started in a run.

## Main statements

* `Alone.step`: one happening, and what is left of it.
* `undisturbed`: a run, and what is left of it.
-/
namespace BlueprintControl

/-- A timer with another number. -/
def Timer.renumber (f : Nat → Nat) (t : Timer) : Timer := { t with number := f t.number }

@[simp] theorem Timer.number_renumber (f : Nat → Nat) (t : Timer) :
    (t.renumber f).number = f t.number := rfl

@[simp] theorem Timer.key_renumber (f : Nat → Nat) (t : Timer) : (t.renumber f).key = t.key := rfl

@[simp] theorem Timer.deadline_renumber (f : Nat → Nat) (t : Timer) :
    (t.renumber f).deadline = t.deadline := rfl

namespace Controller

/-- The number that a timer of a blueprint has in a controller that holds the timers of this
blueprint only: that of the timer at the same place. -/
def counterpart? (c : Controller) (key : String) (d : Controller) (number : Nat) : Option Nat :=
  (((c.armed key).zip d.timers).find? fun p => p.1.number == number).map fun p => p.2.number

/-- What is left of a happening for a blueprint alone. The clock goes on for all. -/
def own? (c : Controller) (key : String) (d : Controller) : Happening → Option Happening
  | .elapsed now => some (.elapsed now)
  | .fired number => (c.counterpart? key d number).map .fired
  | h => if c.subject? h = some key then some h else none

/-- What is left of a run for a blueprint alone. -/
def alone (c : Controller) (key : String) (d : Controller) : List Happening → List Happening
  | [] => []
  | h :: rest =>
    let own := (c.own? key d h).toList
    own ++ (c.step h).controller.alone key (d.run own).1 rest

/-- The moments at which passes of a blueprint are started in a run. -/
def starts (c : Controller) (key : String) : List Happening → List Moment
  | [] => []
  | h :: rest =>
    (if (c.step h).started = some key then [c.now] else []) ++
      (c.step h).controller.starts key rest

/-- A timer that a controller knows of a blueprint. -/
def Knows (c : Controller) (key : String) (t : Timer) : Prop :=
  t ∈ c.armed key ∨ c.scheduled.find? key = some t

/-- The second controller holds what the first one holds of a blueprint, under other numbers of its
timers, and no triggers, passes and timers of other blueprints. -/
structure Alone (key : String) (f : Nat → Nat) (c d : Controller) : Prop where
  now : d.now = c.now
  queue : d.queue = c.queue.filter fun t => t.key == key
  working : d.working = c.working.filter fun k => k == key
  inFlight : key ∈ d.inFlight ↔ key ∈ c.inFlight
  dirty : key ∈ d.dirty ↔ key ∈ c.dirty
  timers : d.timers = (c.armed key).map (Timer.renumber f)
  scheduled : d.scheduled.find? key = (c.scheduled.find? key).map (Timer.renumber f)
  distinct : ∀ t u, c.Knows key t → c.Knows key u → f t.number = f u.number → t.number = u.number
  debouncer : d.debounce.debouncers.find? key = c.debounce.debouncers.find? key
  window : d.debounce.window = c.debounce.window
  failures : d.backoff.counts.find? key = c.backoff.counts.find? key
  delay : ∀ n, d.backoff.delay n = c.backoff.delay n
  statistics : d.summary.blueprints.find? key = c.summary.blueprints.find? key

theorem alone_initial (key : String) (window : Span) (backoff : Backoff) :
    Alone key id (initial window backoff) (initial window backoff) := by
  constructor <;> simp [initial, armed, Knows]

/-- What happens to other blueprints changes nothing. -/
theorem Alone.of_untouched {key : String} {f : Nat → Nat} {c c' d : Controller}
    (ha : Alone key f c d) (hu : Untouched key c c') (hn : c'.now = c.now) :
    Alone key f c' d where
  now := ha.now.trans hn.symm
  queue := ha.queue.trans hu.queue.symm
  working := by rw [ha.working, List.filter_beq, List.filter_beq, hu.working]
  inFlight := ha.inFlight.trans hu.inFlight.symm
  dirty := ha.dirty.trans hu.dirty.symm
  timers := by rw [ha.timers, hu.armed]
  scheduled := by rw [ha.scheduled, hu.scheduled]
  distinct := by simpa only [Knows, hu.armed, hu.scheduled] using ha.distinct
  debouncer := ha.debouncer.trans hu.debouncer.symm
  window := ha.window.trans hu.window.symm
  failures := ha.failures.trans hu.failures.symm
  delay n := (ha.delay n).trans (hu.delay n).symm
  statistics := ha.statistics.trans hu.statistics.symm

/-- Two reactions in which the same pass is started, and which leave a blueprint alike. -/
def Alike (key : String) (r s : Reaction) : Prop :=
  s.started = r.started ∧ ∃ f, Alone key f r.controller s.controller

namespace Alone

variable {key : String} {f : Nat → Nat} {c d : Controller}

theorem alike (ha : Alone key f c d) (started : Option String) :
    Alike key ⟨c, started⟩ ⟨d, started⟩ := ⟨rfl, f, ha⟩

theorem registry_debouncer (ha : Alone key f c d) :
    d.debounce.debouncer key = c.debounce.debouncer key := by
  rw [DebounceRegistry.debouncer, ha.debouncer]
  rfl

/-- The answer to a notification. -/
theorem fst_offer (ha : Alone key f c d) :
    (d.debounce.offer key d.now).1 = (c.debounce.offer key c.now).1 := by
  rw [DebounceRegistry.fst_offer, DebounceRegistry.fst_offer, ha.registry_debouncer, ha.now,
    ha.window]

/-- The answer to a collection. -/
theorem fst_collect (ha : Alone key f c d) :
    (d.debounce.collect key d.now).1 = (c.debounce.collect key c.now).1 := by
  rw [DebounceRegistry.fst_collect, DebounceRegistry.fst_collect, ha.registry_debouncer, ha.now]

theorem offer (ha : Alone key f c d) : Alone key f
    { c with debounce := (c.debounce.offer key c.now).2 }
    { d with debounce := (d.debounce.offer key d.now).2 } :=
  { ha with
    debouncer := by
      simp [DebounceRegistry.offer, DebounceRegistry.offerWithin, ha.registry_debouncer, ha.now,
        ha.window]
    window := ha.window }

theorem collect (ha : Alone key f c d) : Alone key f (c.collect key).2 (d.collect key).2 := by
  refine { ha with debouncer := ?_, window := ?_ }
  all_goals
    simp only [collect_frame, DebounceRegistry.collect, ha.debouncer, ha.now]
    split
  · exact ha.debouncer
  · simp
  · exact ha.window
  · exact ha.window

theorem start (ha : Alone key f c d) : Alike key (c.start key) (d.start key) :=
  ⟨rfl, f, { ha with
    working := by simp [Controller.start, ha.working]
    inFlight := by simp [Controller.start] }⟩

theorem request (ha : Alone key f c d) : Alike key (c.request key) (d.request key) := by
  unfold Controller.request
  simp only [List.contains_iff_mem, ha.inFlight]
  split
  · have hmarked : Alone key f { c with dirty := c.dirty.insert key }
        { d with dirty := d.dirty.insert key } := { ha with dirty := by simp }
    exact hmarked.alike none
  · exact ha.start

/-- Disarms a timer under both of its numbers. -/
theorem disarm (ha : Alone key f c d) {t : Timer} (ht : c.Knows key t) :
    Alone key f (c.disarm t.number) (d.disarm (f t.number)) := by
  refine { ha with timers := ?_, distinct := ?_ }
  · rw [armed_disarm]
    change d.timers.filter _ = _
    rw [ha.timers, List.filter_map]
    refine congrArg (List.map _) (List.filter_congr fun u hu => ?_)
    by_cases hn : u.number = t.number
    · simp [hn]
    · have hf : f u.number ≠ f t.number := mt (ha.distinct u t (.inl hu) ht) hn
      simp [bne_iff_ne.mpr hn, bne_iff_ne.mpr hf]
  · have hless : ∀ u, (c.disarm t.number).Knows key u → c.Knows key u := by
      rintro u (hu | hu)
      · rw [armed_disarm] at hu
        exact .inl ((List.mem_filter.mp hu).1)
      · exact .inr hu
    exact fun u v hu hv => ha.distinct u v (hless u hu) (hless v hv)

theorem armed_arm (c : Controller) (key : String) (deadline : Moment) :
    (c.arm key deadline).armed key = c.armed key ++ [⟨c.issued, key, deadline⟩] := by
  simp [armed, Controller.arm]

/-- Arms a timer in both controllers, under a new number in each. -/
theorem arm (ha : Alone key f c d) (hc : ∀ t ∈ c.armed key, t.number < c.issued)
    (hd : ∀ t ∈ d.timers, t.number < d.issued) (deadline : Moment) :
    ∃ g, Alone key g (c.arm key deadline) (d.arm key deadline) := by
  let g : Nat → Nat := fun n => if n = c.issued then d.issued else f n
  have hnew : g c.issued = d.issued := if_pos rfl
  have hold : ∀ t ∈ c.armed key, g t.number = f t.number :=
    fun t ht => if_neg (Nat.ne_of_lt (hc t ht))
  have hless : ∀ t ∈ c.armed key, g t.number < d.issued := by
    intro t ht
    rw [hold t ht]
    exact hd (t.renumber f) (ha.timers ▸ List.mem_map_of_mem ht)
  have hknown : ∀ t, (c.arm key deadline).Knows key t →
      t ∈ c.armed key ∨ t = ⟨c.issued, key, deadline⟩ := by
    rintro t (ht | ht)
    · simpa [armed_arm] using ht
    · exact .inr (by simpa [Controller.arm, eq_comm] using ht)
  refine ⟨g, { ha with timers := ?_, scheduled := ?_, distinct := ?_ }⟩
  · have hrenumbered : (c.armed key).map (Timer.renumber g)
        = (c.armed key).map (Timer.renumber f) :=
      List.map_congr_left fun t ht => by rw [Timer.renumber, hold t ht, Timer.renumber]
    rw [armed_arm, List.map_append, hrenumbered, ← ha.timers]
    simp [Controller.arm, Timer.renumber, hnew]
  · simp [Controller.arm, Timer.renumber, hnew]
  · intro t u ht hu hn
    rcases hknown t ht with ht | rfl <;> rcases hknown u hu with hu | rfl
    · rw [hold t ht, hold u hu] at hn
      exact ha.distinct t u (.inl ht) (.inl hu) hn
    · exact absurd (hn.trans hnew) (Nat.ne_of_lt (hless t ht))
    · exact absurd (hn.symm.trans hnew) (Nat.ne_of_lt (hless u hu))
    · rfl

theorem schedule (ha : Alone key f c d) (hc : c.Timekept) (hd : d.Timekept) (delay : Span) :
    ∃ g, Alone key g (c.schedule key delay) (d.schedule key delay) := by
  have hnumber : ∀ t ∈ c.armed key, t.number < c.issued :=
    fun t ht => hc.number_lt t (mem_armed.mp ht).1
  unfold Controller.schedule
  rw [ha.now]
  split
  case h_1 => exact ⟨f, ha⟩
  case h_2 deadline _ =>
    rw [ha.scheduled]
    cases ht : c.scheduled.find? key with
    | none => exact ha.arm hnumber hd.number_lt deadline
    | some t =>
      by_cases hle : t.deadline.nanos ≤ deadline.nanos
      · have hle' : (t.renumber f).deadline.nanos ≤ deadline.nanos := hle
        simp only [Option.map_some, if_pos hle, if_pos hle']
        exact ⟨f, ha⟩
      · have hle' : ¬ (t.renumber f).deadline.nanos ≤ deadline.nanos := hle
        simp only [Option.map_some, if_neg hle, if_neg hle']
        refine (ha.disarm (.inr ht)).arm (fun u hu => ?_) (fun u hu => ?_) deadline
        · rw [armed_disarm] at hu
          exact hnumber u (List.mem_filter.mp hu).1
        · exact hd.number_lt u (mem_timers_disarm.mp hu).1

theorem follow (ha : Alone key f c d) (hc : c.Timekept) (hd : d.Timekept)
    (delay : Option Span) : ∃ g, Alone key g (c.follow key delay) (d.follow key delay) := by
  have htrailing : (if (d.collect key).1.1 then some (d.collect key).1.2 else none)
      = if (c.collect key).1.1 then some (c.collect key).1.2 else none := by
    rw [show (d.collect key).1 = (c.collect key).1 from ha.fst_collect]
  simp only [Controller.follow]
  rw [htrailing]
  generalize shorter delay (if (c.collect key).1.1 then some (c.collect key).1.2 else none) = next
  cases next with
  | none => exact ⟨f, ha.collect⟩
  | some s => exact ha.collect.schedule (hc.collect key) (hd.collect key) s

theorem refuse (ha : Alone key f c d) (hc : c.Timekept) (hd : d.Timekept) :
    ∃ g, Alone key g (c.refuse key) (d.refuse key) := by
  have hcounted : Alone key f { c with summary := c.summary.refused }
      { d with summary := d.summary.refused } := { ha with statistics := ha.statistics }
  simp only [refuse_eq, List.contains_iff_mem, ha.inFlight]
  split
  case isTrue => exact ⟨f, hcounted⟩
  case isFalse =>
    refine hcounted.follow ?_ ?_ none
    · exact hc.of_eq rfl rfl rfl fun _ h => h
    · exact hd.of_eq rfl rfl rfl fun _ h => h

/-- What the end of a pass does before the next pass is thought of. -/
theorem leave (ha : Alone key f c d) (r : Report) : Alone key f
    { c with
      working := c.working.erase key
      inFlight := c.inFlight.filter fun k => k != key
      backoff := (delayAfter c.backoff key r.decision).2
      summary := c.summary.finished key r }
    { d with
      working := d.working.erase key
      inFlight := d.inFlight.filter fun k => k != key
      backoff := (delayAfter d.backoff key r.decision).2
      summary := d.summary.finished key r } :=
  { ha with
    working := by simp only [ha.working, List.erase_filter]
    inFlight := by simp
    failures := by
      cases r.decision <;>
        simp [delayAfter, Backoff.reset, Backoff.next, Backoff.failures, ha.failures]
    delay := fun n => by cases r.decision <;> exact ha.delay n
    statistics := by simp [Summary.finished, Summary.of, ha.statistics] }

theorem fst_delayAfter_eq (ha : Alone key f c d) (r : Report) :
    (delayAfter d.backoff key r.decision).1 = (delayAfter c.backoff key r.decision).1 := by
  cases r.decision with
  | retry cause => simp [delayAfter, Backoff.next, Backoff.failures, ha.failures, ha.delay]
  | requeueAfter delay => rfl
  | rest => rfl

theorem finish (ha : Alone key f c d) (hc : c.Timekept) (hd : d.Timekept) (r : Report) :
    Alike key (c.finish key r) (d.finish key r) := by
  have hleft := ha.leave r
  simp only [Controller.finish, List.contains_iff_mem, ha.dirty, ha.fst_delayAfter_eq]
  split
  case isTrue =>
    refine Alone.start (f := f) ?_
    exact { hleft with dirty := by simp }
  case isFalse =>
    refine ⟨rfl, hleft.follow ?_ ?_ _⟩
    · exact hc.of_eq rfl rfl rfl fun _ h => h
    · exact hd.of_eq rfl rfl rfl fun _ h => h

theorem fire (ha : Alone key f c d) {t : Timer} (ht : t ∈ c.armed key) :
    Alone key f (c.fire t) (d.fire (t.renumber f)) := by
  have hdisarmed := ha.disarm (.inl ht)
  refine { hdisarmed with queue := ?_ }
  simp [Controller.fire, send, Controller.disarm, ha.queue, Trigger.key, (mem_armed.mp ht).2]

/-- Taking a trigger of the blueprint off both queues. -/
theorem handle (ha : Alone key f c d) (hc : c.Timekept) (hd : d.Timekept) {t : Trigger}
    {rest : List Trigger} (hq : c.queue = t :: rest) (hk : t.key = key) :
    Alike key (c.step .handled) (d.step .handled) := by
  have hqueue : d.queue = t :: rest.filter fun u => u.key == key := by
    rw [ha.queue, hq, List.filter_cons_of_pos (by simpa using hk)]
  have htaken : Alone key f { c with queue := rest }
      { d with queue := rest.filter fun u => u.key == key } := { ha with queue := rfl }
  simp only [Controller.step, hq, hqueue]
  cases t with
  | notify other =>
    obtain rfl : other = key := hk
    have hoffered : Alone other f
        { c with
          queue := rest
          debounce := (c.debounce.offer other c.now).2
          summary := c.summary.notified }
        { d with
          queue := rest.filter fun u => u.key == other
          debounce := (d.debounce.offer other d.now).2
          summary := d.summary.notified } :=
      { htaken.offer with statistics := ha.statistics }
    simp only [Controller.handle, ha.fst_offer]
    by_cases hadmitted : (c.debounce.offer other c.now).1 = true
    · simp only [hadmitted, if_true]
      exact hoffered.request
    · simp only [hadmitted]
      refine ⟨rfl, hoffered.refuse ?_ ?_⟩
      · exact hc.of_eq rfl rfl rfl fun k h => by simpa [hq] using h
      · exact hd.of_eq rfl rfl rfl fun k h => by simpa [hqueue] using h
  | requeue other =>
    obtain rfl : other = key := hk
    refine Alone.request (f := f) (c := { c with
      queue := rest
      scheduled := c.scheduled.erase other }) ?_
    refine { htaken with scheduled := by simp, distinct := ?_ }
    have hless : ∀ u, ({ c with queue := rest, scheduled := c.scheduled.erase other } :
        Controller).Knows other u → c.Knows other u := by
      rintro u (hu | hu)
      · exact .inl hu
      · simp at hu
    exact fun u v hu hv => ha.distinct u v (hless u hu) (hless v hv)

theorem counterpart?_eq (ha : Alone key f c d) (number : Nat) :
    c.counterpart? key d number
      = ((c.armed key).find? fun t => t.number == number).map fun t => f t.number := by
  have hzip : (c.armed key).zip d.timers = (c.armed key).map fun t => (t, t.renumber f) := by
    have hself : ((c.armed key).map id).zip ((c.armed key).map (Timer.renumber f)) = _ :=
      List.zip_map'
    rwa [List.map_id, ← ha.timers] at hself
  rw [counterpart?, hzip, List.find?_map, Option.map_map]
  rfl

end Alone

/-- A timer that is armed fires once it is due. -/
theorem step_fired {c : Controller} (hc : c.Timekept) {t : Timer} (ht : t ∈ c.timers) :
    c.step (.fired t.number) = ⟨if c.now.reached t.deadline then c.fire t else c, none⟩ := by
  have hsame : ∀ u ∈ c.timers, (u.number == t.number) = true → u = t :=
    fun u hu hn => hc.unique t ht u hu (by simpa using hn)
  simp only [step]
  by_cases hdue : c.now.reached t.deadline = true
  · obtain ⟨u, hu⟩ : ∃ u, (c.timers.find? fun u => u.number == t.number && c.now.reached u.deadline)
        = some u :=
      Option.isSome_iff_exists.mp (List.find?_isSome.mpr ⟨t, ht, by simpa using hdue⟩)
    have hfound := List.find?_some hu
    simp only [Bool.and_eq_true] at hfound
    rw [hu, hsame u (List.mem_of_find?_eq_some hu) hfound.1, if_pos hdue]
  · have hnone : (c.timers.find? fun u => u.number == t.number && c.now.reached u.deadline)
        = none := by
      refine List.find?_eq_none.mpr fun u hu hfound => hdue ?_
      rw [Bool.and_eq_true] at hfound
      exact hsame u hu hfound.1 ▸ hfound.2
    rw [hnone, if_neg hdue]

/-- Only the clock goes on. -/
theorem now_step (c : Controller) {h : Happening} (hne : ∀ now, h ≠ .elapsed now) :
    (c.step h).controller.now = c.now := by
  have hs := reacts_step c h
  generalize c.step h = r at hs ⊢
  cases hs with
  | idle | sent | fired | broke => rfl
  | @elapsed now hle => exact absurd rfl (hne now)
  | @handled t rest hq =>
    cases t <;> simp only [handle, request, start] <;> repeat' split
    all_goals simp
  | ended hw report =>
    simp only [finish, start]
    split <;> simp

namespace Alone

variable {key : String} {f : Nat → Nat} {c d : Controller}

/-- A happening that is not about the blueprint is left out. -/
theorem of_own?_eq_none (ha : Alone key f c d) (hc : c.Timekept) {h : Happening}
    (hown : c.own? key d h = none) :
    Alone key f (c.step h).controller d ∧ (c.step h).started ≠ some key := by
  have hsubject : c.subject? h ≠ some key := by
    intro hs
    cases h with
    | elapsed now => cases hs
    | fired number =>
      simp only [own?, ha.counterpart?_eq, Option.map_eq_none_iff] at hown
      obtain ⟨t, ht, hk⟩ := Option.map_eq_some_iff.mp hs
      have hn := List.find?_some ht
      have harmed : t ∈ c.armed key := mem_armed.mpr ⟨List.mem_of_find?_eq_some ht, hk⟩
      exact List.find?_eq_none.mp hown t harmed hn
    | sent t | handled | ended other report | broke other => simp [own?, hs] at hown
  refine ⟨ha.of_untouched (untouched_step hc hsubject) (now_step c ?_), ?_⟩
  · rintro now rfl
    cases hown
  · exact fun hs => hsubject (subject?_of_started hs)

/-- What is left of a happening does to the blueprint alone what the happening does to it. -/
theorem of_own?_eq_some (ha : Alone key f c d) (hc : c.Timekept) (hd : d.Timekept)
    {h own : Happening} (hown : c.own? key d h = some own) :
    Alike key (c.step h) (d.step own) := by
  cases h with
  | elapsed now =>
    cases hown
    simp only [step, ha.now]
    split
    · refine Alone.alike (f := f) ?_ none
      exact { ha with now := rfl }
    · exact ha.alike none
  | fired number =>
    simp only [own?, ha.counterpart?_eq, Option.map_map, Option.map_eq_some_iff] at hown
    obtain ⟨t, ht, rfl⟩ := hown
    have hn : t.number = number := by simpa using List.find?_some ht
    have harmed := List.mem_of_find?_eq_some ht
    have hmember : t.renumber f ∈ d.timers := ha.timers ▸ List.mem_map_of_mem harmed
    subst hn
    have hfired := step_fired hd hmember
    rw [step_fired hc (mem_armed.mp harmed).1]
    change Alike key _ (d.step (.fired (t.renumber f).number))
    rw [hfired, ha.now, Timer.deadline_renumber]
    split
    · exact (ha.fire harmed).alike none
    · exact ha.alike none
  | sent t =>
    simp only [own?] at hown
    obtain ⟨hk, hown⟩ := Option.ite_none_right_eq_some.mp hown
    cases hown
    refine Alone.alike (f := f) ?_ none
    exact { ha with queue := by simp [send, ha.queue, Option.some.inj hk] }
  | handled =>
    simp only [own?] at hown
    obtain ⟨hk, hown⟩ := Option.ite_none_right_eq_some.mp hown
    cases hown
    obtain ⟨t, ht, hk⟩ := Option.map_eq_some_iff.mp hk
    obtain ⟨rest, hq⟩ := List.head?_eq_some_iff.mp ht
    exact ha.handle hc hd hq hk
  | ended other report =>
    simp only [own?] at hown
    obtain ⟨hk, hown⟩ := Option.ite_none_right_eq_some.mp hown
    cases hown
    cases hk
    simp only [step, ha.working, List.contains_iff_mem, List.mem_filter, beq_self_eq_true, and_true]
    split
    · exact ha.finish hc hd report
    · exact ha.alike none
  | broke other =>
    simp only [own?] at hown
    obtain ⟨hk, hown⟩ := Option.ite_none_right_eq_some.mp hown
    cases hown
    cases hk
    simp only [step, ha.working, List.contains_iff_mem, List.mem_filter, beq_self_eq_true, and_true]
    split
    · refine Alone.alike (f := f) ?_ none
      exact { ha with working := by simp only [lose, ha.working, List.erase_filter] }
    · exact ha.alike none

/-- A happening of which something is left starts no pass of another blueprint. -/
theorem eq_of_started {h own : Happening} {other : String} (hown : c.own? key d h = some own)
    (hs : (c.step h).started = some other) : other = key := by
  have hsubject := subject?_of_started hs
  cases h with
  | elapsed now => cases hsubject
  | fired number =>
    simp only [Controller.step] at hs
    split at hs <;> cases hs
  | sent t | handled | ended k report | broke k =>
    simp only [own?] at hown
    obtain ⟨hk, -⟩ := Option.ite_none_right_eq_some.mp hown
    exact Option.some.inj (hsubject.symm.trans hk)

/-- One happening, and what is left of it. -/
theorem step (ha : Alone key f c d) (hc : c.Timekept) (hd : d.Timekept) (h : Happening) :
    let own := (c.own? key d h).toList
    (∃ g, Alone key g (c.step h).controller (d.run own).1) ∧
      (d.run own).2 = (c.step h).started.toList.filter (· == key) ∧
      d.starts key own = if (c.step h).started = some key then [c.now] else [] := by
  intro own
  cases hown : c.own? key d h with
  | none =>
    obtain ⟨hstep, hstarted⟩ := ha.of_own?_eq_none hc hown
    have hempty : own = [] := by simp [own, hown]
    rw [hempty]
    refine ⟨⟨f, hstep⟩, ?_, by simp [starts, hstarted]⟩
    cases hs : (c.step h).started with
    | none => rfl
    | some other =>
      have hne : other ≠ key := fun heq => hstarted (by rw [hs, heq])
      simp [hne]
  | some single =>
    obtain ⟨hstarted, hstep⟩ := ha.of_own?_eq_some hc hd hown
    have hsingle : own = [single] := by simp [own, hown]
    rw [hsingle]
    refine ⟨hstep, ?_, by simp [starts, hstarted, ha.now]⟩
    rw [run_cons, run_nil, List.append_nil, hstarted]
    cases hs : (c.step h).started with
    | none => rfl
    | some other => simp [eq_of_started hown hs]

end Alone

theorem alone_append (c : Controller) (key : String) (d : Controller)
    (before after : List Happening) :
    c.alone key d (before ++ after) = c.alone key d before ++
      (c.run before).1.alone key (d.run (c.alone key d before)).1 after := by
  induction before generalizing c d with
  | nil => rfl
  | cons h rest ih => simp [alone, run_cons, run_append, ih, List.append_assoc]

theorem starts_append (c : Controller) (key : String) (before after : List Happening) :
    c.starts key (before ++ after) = c.starts key before ++ (c.run before).1.starts key after := by
  induction before generalizing c with
  | nil => rfl
  | cons h rest ih => simp [starts, run_cons, ih, List.append_assoc]

/-- A run, and what is left of it. -/
theorem Alone.run {key : String} {f : Nat → Nat} {c d : Controller} (ha : Alone key f c d)
    (hc : c.Timekept) (hd : d.Timekept) (hs : List Happening) :
    (∃ g, Alone key g (c.run hs).1 (d.run (c.alone key d hs)).1) ∧
      (d.run (c.alone key d hs)).2 = (c.run hs).2.filter (· == key) ∧
      d.starts key (c.alone key d hs) = c.starts key hs := by
  induction hs generalizing c d f with
  | nil => exact ⟨⟨f, ha⟩, rfl, rfl⟩
  | cons h rest ih =>
    obtain ⟨⟨g, hstep⟩, hstarted, hstarts⟩ := ha.step hc hd h
    obtain ⟨hrest, hrestarted, hrestarts⟩ := ih hstep (hc.step h) (hd.run _)
    simp only [alone, run_append, run_cons, starts_append, starts, List.filter_append]
    exact ⟨hrest, by rw [hstarted, hrestarted], by rw [hstarts, hrestarts]⟩

/-- **Blueprints do not disturb each other.** Of a run with many blueprints all is left out that is
about the others of one. At every moment of the run, what is left has brought the controller to
where it holds the same of the blueprint at the same time: the timers with their deadlines, the
failures in a row, the debouncer and its answers, the statistics. Its passes have been started at
the same moments. And whatever happens next to another blueprint leaves all entries of this one as
they are. -/
theorem undisturbed (window : Span) (backoff : Backoff) (before after : List Happening)
    (key : String) :
    let start := initial window backoff
    let own := start.alone key start before
    let c := (start.run before).1
    let d := (start.run own).1
    own <+: start.alone key start (before ++ after) ∧
    (∃ f, Alone key f c d) ∧
    (d.debounce.offer key d.now).1 = (c.debounce.offer key c.now).1 ∧
    (d.debounce.collect key d.now).1 = (c.debounce.collect key c.now).1 ∧
    (start.run own).2 = (start.run before).2.filter (· == key) ∧
    start.starts key own = start.starts key before ∧
    ∀ h, c.subject? h ≠ some key →
      Untouched key c (c.step h).controller ∧ (c.step h).started ≠ some key := by
  intro start own c d
  have hkept : start.Timekept := timekept_initial window backoff
  obtain ⟨⟨f, halone⟩, hstarted, hstarts⟩ :=
    (alone_initial key window backoff).run hkept hkept before
  refine ⟨?_, ⟨f, halone⟩, halone.fst_offer, halone.fst_collect, hstarted, hstarts, ?_⟩
  · rw [alone_append]
    exact List.prefix_append _ _
  · intro h hs
    exact ⟨untouched_step (hkept.run before) hs, fun hstarted => hs (subject?_of_started hstarted)⟩

/-- Two blueprints fail one after the other, and both retry. Of the eleven happenings six are left
for the second one, and its passes are started at the same moments. When the first one fails once
more, the second one keeps what it has. -/
theorem retry_among_others :
    let failed (key : String) : Report := ⟨key, none, some "down", .retry (.internal "down")⟩
    let start := initial .zero .standard
    let hs : List Happening := [.sent (.notify "a"), .sent (.notify "b"), .handled, .handled,
      .ended "a" (failed "a"), .ended "b" (failed "b"), .elapsed ⟨nanosPerSecond⟩, .fired 1,
      .fired 0, .handled, .handled]
    let c := (start.run hs).1
    (start.alone "b" start hs).length = 6 ∧
    start.starts "b" (start.alone "b" start hs) = [.start, ⟨nanosPerSecond⟩] ∧
    "a" ∈ c.working ∧ Untouched "b" c (c.step (.ended "a" (failed "a"))).controller := by
  intro failed start hs c
  obtain ⟨-, -, -, -, -, hstarts, hothers⟩ := undisturbed .zero .standard hs [] "b"
  refine ⟨by decide, hstarts.trans (by decide), by decide, ?_⟩
  exact (hothers (.ended "a" (failed "a")) (by simp [subject?])).1

end Controller
end BlueprintControl
