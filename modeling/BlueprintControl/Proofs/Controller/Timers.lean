import BlueprintControl.Proofs.Controller.Frame

/-!
# Timers and their entries

Every timer has a number of its own. The entry of a blueprint names a timer of the blueprint that is
armed still, or has fired with its trigger still waiting. An entry may be dropped while its timer is
armed, but not the other way round.

## Main definitions

* `Controller.Entry`: what holds of the timer that is the entry of a blueprint.
* `Controller.Timekept`: numbers are not used twice, and every entry is one.
* `Controller.Asked`: a timer of the blueprint is armed, or its trigger waits.
* `Controller.AskedBy`: the same, for a timer that is due by a moment.

## Main statements

* `Timekept.run`: every run keeps the timers in order.
* `AskedBy.schedule`, `askedBy_schedule`: arming a timer forgets nobody who was asked for, and sees
  to it that its own blueprint is, and in time.
-/
namespace BlueprintControl.Controller

/-- What holds of the timer that is the entry of a blueprint. -/
structure Entry (c : Controller) (key : String) (t : Timer) : Prop where
  key_eq : t.key = key
  number_lt : t.number < c.issued
  unique : ∀ u ∈ c.timers, u.number = t.number → u = t
  live : t ∈ c.timers ∨ .requeue key ∈ c.queue

/-- Numbers are not used twice, and entries name timers that are armed or have just fired. -/
structure Timekept (c : Controller) : Prop where
  number_lt : ∀ t ∈ c.timers, t.number < c.issued
  unique : ∀ t ∈ c.timers, ∀ u ∈ c.timers, u.number = t.number → u = t
  entry : ∀ key t, c.scheduled.find? key = some t → c.Entry key t

theorem timekept_initial (window : Span) (backoff : Backoff) :
    (initial window backoff).Timekept where
  number_lt := by simp [initial]
  unique := by simp [initial]
  entry := by simp [initial]

theorem mem_timers_disarm {c : Controller} {number : Nat} {t : Timer} :
    t ∈ (c.disarm number).timers ↔ t ∈ c.timers ∧ t.number ≠ number := by
  simp [disarm]

theorem mem_timers_arm {c : Controller} {key : String} {deadline : Moment} {t : Timer} :
    t ∈ (c.arm key deadline).timers ↔ t ∈ c.timers ∨ t = ⟨c.issued, key, deadline⟩ := by
  simp [arm]

namespace Timekept

variable {c d : Controller}

/-- `Timekept` reads the timers, their entries and the waiting requeues only. -/
theorem of_eq (hc : c.Timekept) (ht : d.timers = c.timers) (hi : d.issued = c.issued)
    (hs : d.scheduled = c.scheduled)
    (hq : ∀ key, .requeue key ∈ c.queue → .requeue key ∈ d.queue) : d.Timekept where
  number_lt := by rw [ht, hi]; exact hc.number_lt
  unique := by rw [ht]; exact hc.unique
  entry key t h := by
    rw [hs] at h
    have he := hc.entry key t h
    refine ⟨he.key_eq, hi ▸ he.number_lt, ht ▸ he.unique, ?_⟩
    rw [ht]
    exact he.live.imp_right (hq key)

/-- Arms a timer after some timers of the blueprint, and of no other, have been disarmed. -/
theorem arm (hc : c.Timekept) {key : String} (deadline : Moment)
    (hsub : ∀ t ∈ d.timers, t ∈ c.timers) (hkeep : ∀ t ∈ c.timers, t.key ≠ key → t ∈ d.timers)
    (hi : d.issued = c.issued) (hs : d.scheduled = c.scheduled) (hq : d.queue = c.queue) :
    (d.arm key deadline).Timekept := by
  have hlt : ∀ t ∈ d.timers, t.number < d.issued := fun t ht => hi ▸ hc.number_lt t (hsub t ht)
  refine ⟨?_, ?_, ?_⟩
  · intro t ht
    change t.number < d.issued + 1
    rcases mem_timers_arm.mp ht with ht | rfl
    · exact Nat.lt_succ_of_lt (hlt t ht)
    · exact Nat.lt_succ_self _
  · intro t ht u hu hn
    rcases mem_timers_arm.mp ht with ht | rfl <;> rcases mem_timers_arm.mp hu with hu | rfl
    · exact hc.unique t (hsub t ht) u (hsub u hu) hn
    · exact absurd hn (Nat.ne_of_gt (hlt t ht))
    · exact absurd hn (Nat.ne_of_lt (hlt u hu))
    · rfl
  · intro other t h
    simp only [Controller.arm, Keyed.find?_put, hs] at h
    split at h
    case isTrue heq =>
      cases h
      refine ⟨heq.symm, Nat.lt_succ_self _, ?_, .inl (mem_timers_arm.mpr (.inr rfl))⟩
      intro u hu hn
      rcases mem_timers_arm.mp hu with hu | rfl
      · exact absurd hn (Nat.ne_of_lt (hlt u hu))
      · rfl
    case isFalse hne =>
      have he := hc.entry other t h
      have hnumber : t.number < d.issued := hi ▸ he.number_lt
      refine ⟨he.key_eq, Nat.lt_succ_of_lt hnumber, ?_, ?_⟩
      · intro u hu hn
        rcases mem_timers_arm.mp hu with hu | rfl
        · exact he.unique u (hsub u hu) hn
        · exact absurd hn (Nat.ne_of_gt hnumber)
      · refine he.live.imp (fun hlive => ?_) (fun hwait => ?_)
        · exact mem_timers_arm.mpr (.inl (hkeep t hlive (he.key_eq ▸ hne)))
        · exact (show (d.arm key deadline).queue = c.queue from hq) ▸ hwait

/-- Disarming the entry of a blueprint takes away timers of this blueprint only. -/
theorem mem_timers_disarm_of_ne (hc : c.Timekept) {key : String} {t u : Timer}
    (ht : c.scheduled.find? key = some t) (hu : u ∈ c.timers) (hne : u.key ≠ key) :
    u ∈ (c.disarm t.number).timers := by
  have he := hc.entry key t ht
  refine mem_timers_disarm.mpr ⟨hu, fun hn => hne ?_⟩
  rw [he.unique u hu hn, he.key_eq]

theorem schedule (hc : c.Timekept) (key : String) (delay : Span) :
    (c.schedule key delay).Timekept := by
  unfold Controller.schedule
  split
  case h_1 => exact hc
  case h_2 deadline _ =>
    split
    case h_1 t ht =>
      split
      · exact hc
      · refine hc.arm deadline (fun u hu => (mem_timers_disarm.mp hu).1) ?_ rfl rfl rfl
        exact fun u hu hne => hc.mem_timers_disarm_of_ne ht hu hne
    case h_2 => exact hc.arm deadline (fun _ hu => hu) (fun _ hu _ => hu) rfl rfl rfl

theorem fire (hc : c.Timekept) {t : Timer} (ht : t ∈ c.timers) : (c.fire t).Timekept where
  number_lt u hu := hc.number_lt u (mem_timers_disarm.mp hu).1
  unique u hu v hv := hc.unique u (mem_timers_disarm.mp hu).1 v (mem_timers_disarm.mp hv).1
  entry key u h := by
    have he := hc.entry key u h
    refine ⟨he.key_eq, he.number_lt, fun v hv => he.unique v (mem_timers_disarm.mp hv).1, ?_⟩
    rcases he.live with hlive | hwait
    · by_cases hn : u.number = t.number
      · -- The entry itself has fired: its trigger is the one that was sent.
        have : u = t := hc.unique t ht u hlive hn
        exact .inr (by simp [Controller.fire, send, disarm, ← he.key_eq, this])
      · exact .inl (mem_timers_disarm.mpr ⟨hlive, hn⟩)
    · exact .inr (List.mem_append_left _ hwait)

theorem collect (hc : c.Timekept) (key : String) : (c.collect key).2.Timekept :=
  hc.of_eq rfl rfl rfl fun _ h => h

theorem follow (hc : c.Timekept) (key : String) (delay : Option Span) :
    (c.follow key delay).Timekept := by
  simp only [Controller.follow]
  split
  · exact (hc.collect key).schedule _ _
  · exact hc.collect key

theorem refuse (hc : c.Timekept) (key : String) : (c.refuse key).Timekept := by
  rw [refuse_eq]
  split
  · exact hc.of_eq rfl rfl rfl fun _ h => h
  · refine Timekept.follow ?_ key none
    exact hc.of_eq rfl rfl rfl fun _ h => h

theorem request (hc : c.Timekept) (key : String) : (c.request key).controller.Timekept := by
  unfold Controller.request
  split <;> exact hc.of_eq rfl rfl rfl fun _ h => h

theorem finish (hc : c.Timekept) (key : String) (r : Report) :
    (c.finish key r).controller.Timekept := by
  simp only [Controller.finish]
  split
  · exact hc.of_eq rfl rfl rfl fun _ h => h
  · refine Timekept.follow ?_ _ _
    exact hc.of_eq rfl rfl rfl fun _ h => h

/-- Taking a trigger off the queue. A requeue takes the entry of its blueprint with it. -/
theorem handle {t : Trigger} {rest : List Trigger} (hc : c.Timekept)
    (hq : c.queue = t :: rest) : ({ c with queue := rest }.handle t).controller.Timekept := by
  cases t with
  | notify key =>
    have hc' : ({ c with queue := rest } : Controller).Timekept :=
      hc.of_eq rfl rfl rfl fun other h => by simpa [hq] using h
    simp only [Controller.handle]
    split
    · refine Timekept.request ?_ key
      exact hc'.of_eq rfl rfl rfl fun _ h => h
    · refine Timekept.refuse ?_ key
      exact hc'.of_eq rfl rfl rfl fun _ h => h
  | requeue key =>
    refine Timekept.request (c := { c with queue := rest, scheduled := c.scheduled.erase key })
      ⟨hc.number_lt, hc.unique, ?_⟩ key
    intro other t h
    simp only [Keyed.find?_erase] at h
    split at h
    case isTrue => cases h
    case isFalse hne =>
      have he := hc.entry other t h
      exact ⟨he.key_eq, he.number_lt, he.unique, he.live.imp_right (by simp [hq, hne])⟩

/-- One happening keeps the timers in order. -/
theorem step (hc : c.Timekept) (h : Happening) : (c.step h).controller.Timekept := by
  have hs := reacts_step c h
  generalize c.step h = r at hs ⊢
  cases hs with
  | idle => exact hc
  | sent t => exact hc.of_eq rfl rfl rfl fun _ h => List.mem_append_left _ h
  | elapsed hle => exact hc.of_eq rfl rfl rfl fun _ h => h
  | fired ht hd => exact hc.fire ht
  | handled hq => exact hc.handle hq
  | ended hw report => exact hc.finish _ report
  | broke hw => exact hc.of_eq rfl rfl rfl fun _ h => h

theorem run (hc : c.Timekept) (hs : List Happening) : (c.run hs).1.Timekept := by
  induction hs generalizing c with
  | nil => exact hc
  | cons h rest ih => exact ih (hc.step h)

end Timekept

/-! ## Who is asked for -/

/-- A timer of the blueprint is armed, or a requeue of it waits to be handled. -/
def Asked (c : Controller) (key : String) : Prop :=
  (∃ t ∈ c.timers, t.key = key) ∨ .requeue key ∈ c.queue

/-- A timer of the blueprint is armed that is due by a moment, or a requeue of it waits to be
handled. -/
def AskedBy (c : Controller) (key : String) (limit : Moment) : Prop :=
  (∃ t ∈ c.timers, t.key = key ∧ t.deadline.nanos ≤ limit.nanos) ∨ .requeue key ∈ c.queue

theorem asked_iff {c : Controller} {key : String} :
    c.Asked key ↔ ∃ limit, c.AskedBy key limit := by
  constructor
  · rintro (⟨t, ht, hk⟩ | hq)
    · exact ⟨t.deadline, .inl ⟨t, ht, hk, Nat.le_refl _⟩⟩
    · exact ⟨.start, .inr hq⟩
  · rintro ⟨limit, ⟨t, ht, hk, -⟩ | hq⟩
    · exact .inl ⟨t, ht, hk⟩
    · exact .inr hq

theorem askedBy_arm (c : Controller) (key : String) (deadline : Moment) :
    (c.arm key deadline).AskedBy key deadline :=
  .inl ⟨_, mem_timers_arm.mpr (.inr rfl), rfl, Nat.le_refl _⟩

/-- A delay that ends at a moment of the clock gets the blueprint asked for by then. -/
theorem askedBy_schedule {c : Controller} (hc : c.Timekept) {key : String} {delay : Span}
    {deadline : Moment} (hd : c.now.add? delay = some deadline) :
    (c.schedule key delay).AskedBy key deadline := by
  simp only [schedule, hd]
  split
  case h_1 t ht =>
    split
    case isTrue hbefore =>
      -- The entry is due before: it is armed, or its trigger waits.
      have he := hc.entry key t ht
      exact he.live.imp (fun hlive => ⟨t, hlive, he.key_eq, hbefore⟩) (fun hwait => hwait)
    case isFalse => exact askedBy_arm _ key deadline
  case h_2 => exact askedBy_arm _ key deadline

namespace AskedBy

variable {c d : Controller} {key : String} {limit : Moment}

/-- Whoever is asked for stays so as long as no timer and no requeue of it is taken away. -/
theorem mono (ha : c.AskedBy key limit) (ht : ∀ t ∈ c.timers, t ∈ d.timers)
    (hq : .requeue key ∈ c.queue → .requeue key ∈ d.queue) : d.AskedBy key limit :=
  ha.imp (fun ⟨t, harmed, hk⟩ => ⟨t, ht t harmed, hk⟩) hq

/-- A timer that is replaced makes way for one that is due before. -/
theorem schedule (ha : c.AskedBy key limit) (hc : c.Timekept) (other : String) (delay : Span) :
    (c.schedule other delay).AskedBy key limit := by
  unfold Controller.schedule
  split
  case h_1 => exact ha
  case h_2 deadline _ =>
    split
    case h_1 t ht =>
      split
      case isTrue => exact ha
      case isFalse hlater =>
        refine ha.imp (fun ⟨u, hu, huk, hdue⟩ => ?_) (fun hwait => hwait)
        by_cases hn : u.number = t.number
        · have he := hc.entry other t ht
          obtain rfl : u = t := he.unique u hu hn
          refine ⟨_, mem_timers_arm.mpr (.inr rfl), he.key_eq.symm.trans huk, ?_⟩
          exact Nat.le_trans (Nat.le_of_not_le hlater) hdue
        · exact ⟨u, mem_timers_arm.mpr (.inl (mem_timers_disarm.mpr ⟨hu, hn⟩)), huk, hdue⟩
    case h_2 => exact ha.mono (fun t ht => mem_timers_arm.mpr (.inl ht)) fun hwait => hwait

/-- A timer that fires leaves its trigger behind. -/
theorem fire (ha : c.AskedBy key limit) (hc : c.Timekept) {t : Timer} (ht : t ∈ c.timers) :
    (c.fire t).AskedBy key limit := by
  rcases ha with ⟨u, hu, huk, hdue⟩ | hwait
  · by_cases hn : u.number = t.number
    · have : u = t := hc.unique t ht u hu hn
      exact .inr (by simp [Controller.fire, send, disarm, ← huk, this])
    · exact .inl ⟨u, mem_timers_disarm.mpr ⟨hu, hn⟩, huk, hdue⟩
  · exact .inr (List.mem_append_left _ hwait)

end AskedBy

namespace Asked

variable {c : Controller} {key : String}

/-- Replacing a timer is none of the business of other blueprints, and the blueprint itself gets
another timer. -/
theorem schedule (ha : c.Asked key) (hc : c.Timekept) (other : String) (delay : Span) :
    (c.schedule other delay).Asked key := by
  obtain ⟨limit, ha⟩ := asked_iff.mp ha
  exact asked_iff.mpr ⟨limit, ha.schedule hc other delay⟩

theorem fire (ha : c.Asked key) (hc : c.Timekept) {t : Timer} (ht : t ∈ c.timers) :
    (c.fire t).Asked key := by
  obtain ⟨limit, ha⟩ := asked_iff.mp ha
  exact asked_iff.mpr ⟨limit, ha.fire hc ht⟩

end Asked

/-- A delay that ends at a moment of the clock gets the blueprint asked for. -/
theorem asked_schedule {c : Controller} (hc : c.Timekept) {key : String} {delay : Span}
    (hd : ∃ deadline, c.now.add? delay = some deadline) : (c.schedule key delay).Asked key := by
  obtain ⟨deadline, hd⟩ := hd
  exact asked_iff.mpr ⟨deadline, askedBy_schedule hc hd⟩

end BlueprintControl.Controller
