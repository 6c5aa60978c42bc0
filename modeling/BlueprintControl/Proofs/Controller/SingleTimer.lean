import BlueprintControl.Proofs.Controller.Timers

/-!
# How many timers a blueprint has

Handling a requeue drops the entry of its blueprint, on the assumption that the timer of the entry
has just fired. A requeue that somebody sends breaks the assumption: the timer stays armed, and
nothing knows of it any more. So a blueprint has at most one timer armed that is not its entry for
every requeue of it that was sent, and none at all if there was no such requeue.

## Main definitions

* `Controller.SingleTimer`: no timer is armed but the entry of the blueprint.
* `Controller.strays`: the timers that are armed and not the entry.
* `Controller.requeued`: the requeues of a blueprint that are sent in a run.
* `Controller.Accounted`: what one happening keeps of the balance.

## Main statements

* `Accounted.step`, `Accounted.run`: armed timers and waiting requeues are covered by the entry and
  the requeues that were sent.
* `strays_le_requeued`: the bound that follows for every run.
* `two_timers_after_requeue`: a single requeue that is sent is enough for two armed timers.
-/
namespace BlueprintControl.Controller

/-- The timers of a blueprint that are armed. -/
def armed (c : Controller) (key : String) : List Timer := c.timers.filter fun t => t.key == key

/-- The entry of a blueprint, if it has one. -/
def entries (c : Controller) (key : String) : List Timer := (c.scheduled.find? key).toList

/-- A blueprint has at most one timer armed, and this timer is its entry. -/
structure SingleTimer (c : Controller) (key : String) : Prop where
  length_le : (c.armed key).length ≤ 1
  entry : ∀ t ∈ c.armed key, c.scheduled.find? key = some t

/-- The armed timers of a blueprint that are not its entry. -/
def strays (c : Controller) (key : String) : List Timer :=
  (c.armed key).filter fun t => c.scheduled.find? key != some t

/-- The number of requeues of a blueprint that are sent in a run. -/
def requeued (key : String) : List Happening → Nat
  | [] => 0
  | .sent t :: rest => (if t = .requeue key then 1 else 0) + requeued key rest
  | _ :: rest => requeued key rest

theorem requeued_append (key : String) (first second : List Happening) :
    requeued key (first ++ second) = requeued key first + requeued key second := by
  induction first with
  | nil => simp [requeued]
  | cons h rest ih => cases h <;> simp [requeued, ih, Nat.add_assoc]

theorem mem_armed {c : Controller} {key : String} {t : Timer} :
    t ∈ c.armed key ↔ t ∈ c.timers ∧ t.key = key := by
  simp [armed]

theorem length_entries_le (c : Controller) (key : String) : (c.entries key).length ≤ 1 :=
  Option.length_toList_le

theorem armed_disarm (c : Controller) (key : String) (number : Nat) :
    (c.disarm number).armed key = (c.armed key).filter fun t => t.number != number := by
  simp only [armed, disarm, List.filter_filter, Bool.and_comm]

theorem length_armed_arm (c : Controller) (key other : String) (deadline : Moment) :
    ((c.arm other deadline).armed key).length
      = (c.armed key).length + if other = key then 1 else 0 := by
  by_cases h : other = key <;> simp [armed, arm, h]

theorem length_armed_disarm_le (c : Controller) (key : String) (number : Nat) :
    ((c.disarm number).armed key).length ≤ (c.armed key).length :=
  (List.filter_sublist.filter _).length_le

/-- Disarming an armed timer leaves its blueprint with fewer. -/
theorem length_armed_disarm_lt {c : Controller} {t : Timer} (ht : t ∈ c.timers) :
    ((c.disarm t.number).armed t.key).length < (c.armed t.key).length := by
  rw [armed_disarm]
  exact List.length_filter_lt_length_iff_exists.mpr ⟨t, mem_armed.mpr ⟨ht, rfl⟩, by simp⟩

/-- The armed timers and the waiting requeues of a blueprint are covered by its entry and by as
many requeues as were sent. An entry whose timer has fired is due. -/
structure Accounted (c : Controller) (key : String) (sent : Nat) : Prop where
  due : ∀ t, c.scheduled.find? key = some t → t ∈ c.timers ∨ t.deadline.nanos ≤ c.now.nanos
  covered : (c.armed key).length + c.queue.count (.requeue key) ≤ (c.entries key).length + sent

theorem accounted_initial (window : Span) (backoff : Backoff) (key : String) :
    (initial window backoff).Accounted key 0 where
  due := by simp [initial]
  covered := by simp [initial, armed]

namespace Accounted

variable {c d : Controller} {key other : String} {sent : Nat}

/-- `Accounted` reads the timers, the entries, the queue and the clock, and time goes on. -/
theorem of_eq (ha : c.Accounted key sent) (ht : d.timers = c.timers)
    (hs : d.scheduled = c.scheduled) (hq : d.queue = c.queue) (hn : c.now.nanos ≤ d.now.nanos) :
    d.Accounted key sent where
  due t h := by
    rw [hs] at h
    rw [ht]
    exact (ha.due t h).imp_right fun hdue => Nat.le_trans hdue hn
  covered := by
    simp only [armed, entries, ht, hs, hq]
    exact ha.covered

/-- Arms a timer after some timers of the blueprint, and of no other, have been disarmed. -/
theorem arm (ha : c.Accounted key sent) (deadline : Moment)
    (hkeep : key ≠ other → ∀ t, c.scheduled.find? key = some t → t ∈ c.timers → t ∈ d.timers)
    (hle : (d.armed key).length ≤ (c.armed key).length)
    (hroom : key = other → (d.armed key).length + d.queue.count (.requeue key) ≤ sent)
    (hs : d.scheduled = c.scheduled) (hq : d.queue = c.queue) (hn : d.now = c.now) :
    (d.arm other deadline).Accounted key sent := by
  have hentry : (d.arm other deadline).scheduled.find? key
      = if key = other then some ⟨d.issued, other, deadline⟩ else c.scheduled.find? key := by
    rw [← hs]
    exact Keyed.find?_put _ _ _ _
  refine ⟨fun t ht => ?_, ?_⟩
  · rw [hentry] at ht
    split at ht
    case isTrue =>
      cases ht
      exact .inl (mem_timers_arm.mpr (.inr rfl))
    case isFalse hne =>
      rcases ha.due t ht with hlive | hdue
      · exact .inl (mem_timers_arm.mpr (.inl (hkeep hne t ht hlive)))
      · exact .inr (hn ▸ hdue)
  · have hqueue : (d.arm other deadline).queue = d.queue := rfl
    rw [length_armed_arm, hqueue, entries, hentry]
    have hcovered := ha.covered
    rw [← hq] at hcovered
    by_cases hk : key = other
    · have hself := hroom hk
      simp only [hk, if_true, Option.toList_some, List.length_singleton] at hself ⊢
      omega
    · have hk' : ¬ other = key := fun h => hk h.symm
      simp only [hk, hk', if_false]
      simp only [entries] at hcovered
      omega

/-- A new timer is paid for by the entry it becomes, or by the timer it replaces. -/
theorem schedule (ha : c.Accounted key sent) (hc : c.Timekept) (other : String) (delay : Span) :
    (c.schedule other delay).Accounted key sent := by
  have hcovered := ha.covered
  unfold Controller.schedule
  split
  case h_1 => exact ha
  case h_2 deadline hdeadline =>
    split
    case h_1 t ht =>
      split
      case isTrue => exact ha
      case isFalse hlater =>
        have he := hc.entry other t ht
        refine ha.arm deadline ?_ (length_armed_disarm_le c key _) ?_ rfl rfl rfl
        · intro hne u hu hlive
          refine hc.mem_timers_disarm_of_ne ht hlive ?_
          exact (hc.entry key u hu).key_eq ▸ hne
        · rintro rfl
          -- The entry is due after the clock, so its timer has not fired.
          have hnow := Moment.nanos_of_add?_eq_some hdeadline
          have hlive : t ∈ c.timers := (ha.due t ht).resolve_right (by omega)
          have hless := length_armed_disarm_lt hlive
          rw [he.key_eq] at hless
          simp only [entries, ht, Option.toList_some, List.length_singleton] at hcovered
          change _ + c.queue.count _ ≤ sent
          omega
    case h_2 hnone =>
      refine ha.arm deadline (fun _ _ _ hlive => hlive) (Nat.le_refl _) ?_ rfl rfl rfl
      rintro rfl
      simpa [entries, hnone] using hcovered

/-- A timer that fires is replaced by its trigger. -/
theorem fire (ha : c.Accounted key sent) (hc : c.Timekept) {t : Timer} (ht : t ∈ c.timers)
    (hd : c.now.reached t.deadline = true) : (c.fire t).Accounted key sent where
  due u hu := by
    rcases ha.due u hu with hlive | hdue
    · by_cases hn : u.number = t.number
      · obtain rfl : u = t := hc.unique t ht u hlive hn
        exact .inr ((Moment.reached_iff _ _).mp hd)
      · exact .inl (mem_timers_disarm.mpr ⟨hlive, hn⟩)
    · exact .inr hdue
  covered := by
    have hcovered := ha.covered
    have hcount : (c.fire t).queue.count (.requeue key)
        = c.queue.count (.requeue key) + if t.key = key then 1 else 0 := by
      simp [Controller.fire, send, disarm, List.count_singleton]
    have harmed : ((c.fire t).armed key).length + (if t.key = key then 1 else 0)
        ≤ (c.armed key).length := by
      split
      case isTrue hk => exact hk ▸ length_armed_disarm_lt ht
      case isFalse => exact length_armed_disarm_le c key t.number
    have hentries : (c.fire t).entries key = c.entries key := rfl
    rw [hcount, hentries]
    omega

theorem follow (ha : c.Accounted key sent) (hc : c.Timekept) (other : String)
    (delay : Option Span) : (c.follow other delay).Accounted key sent := by
  have hcollect : (c.collect other).2.Accounted key sent :=
    ha.of_eq rfl rfl rfl (Nat.le_refl _)
  simp only [Controller.follow]
  split
  · exact hcollect.schedule (hc.collect other) other _
  · exact hcollect

theorem refuse (ha : c.Accounted key sent) (hc : c.Timekept) (other : String) :
    (c.refuse other).Accounted key sent := by
  rw [refuse_eq]
  split
  · exact ha.of_eq rfl rfl rfl (Nat.le_refl _)
  · refine Accounted.follow ?_ ?_ other none
    · exact ha.of_eq rfl rfl rfl (Nat.le_refl _)
    · exact hc.of_eq rfl rfl rfl fun _ h => h

theorem request (ha : c.Accounted key sent) (other : String) :
    (c.request other).controller.Accounted key sent := by
  unfold Controller.request
  split <;> exact ha.of_eq rfl rfl rfl (Nat.le_refl _)

theorem finish (ha : c.Accounted key sent) (hc : c.Timekept) (other : String) (r : Report) :
    (c.finish other r).controller.Accounted key sent := by
  simp only [Controller.finish]
  split
  · exact ha.of_eq rfl rfl rfl (Nat.le_refl _)
  · refine Accounted.follow ?_ ?_ other _
    · exact ha.of_eq rfl rfl rfl (Nat.le_refl _)
    · exact hc.of_eq rfl rfl rfl fun _ h => h

/-- Handling a requeue drops an entry, and the requeue is gone as well. -/
theorem handle {t : Trigger} {rest : List Trigger} (ha : c.Accounted key sent) (hc : c.Timekept)
    (hq : c.queue = t :: rest) :
    ({ c with queue := rest }.handle t).controller.Accounted key sent := by
  have hcovered := ha.covered
  rw [hq] at hcovered
  cases t with
  | notify other =>
    have hleft : ({ c with queue := rest } : Controller).Accounted key sent := by
      refine ⟨ha.due, ?_⟩
      rwa [List.count_cons_of_ne (by simp)] at hcovered
    simp only [Controller.handle]
    split
    · refine Accounted.request ?_ other
      exact hleft.of_eq rfl rfl rfl (Nat.le_refl _)
    · refine Accounted.refuse ?_ ?_ other
      · exact hleft.of_eq rfl rfl rfl (Nat.le_refl _)
      · exact hc.of_eq rfl rfl rfl fun k h => by simpa [hq] using h
  | requeue other =>
    refine Accounted.request (c := { c with queue := rest, scheduled := c.scheduled.erase other })
      ⟨?_, ?_⟩ other
    · intro t ht
      simp only [Keyed.find?_erase] at ht
      split at ht
      case isTrue => cases ht
      case isFalse => exact ha.due t ht
    · change (c.armed key).length + rest.count (.requeue key)
        ≤ ((c.scheduled.erase other).find? key).toList.length + sent
      rw [Keyed.find?_erase]
      split
      case isTrue hk =>
        rw [hk, List.count_cons_self] at hcovered
        rw [hk]
        have hone := c.length_entries_le other
        simp only [Option.toList_none, List.length_nil]
        omega
      case isFalse hne =>
        have hother : (.requeue other : Trigger) ≠ .requeue key := fun h => hne (by cases h; rfl)
        rwa [List.count_cons_of_ne hother] at hcovered

/-- What a happening sends is added to the account. -/
theorem step (ha : c.Accounted key sent) (hc : c.Timekept) (h : Happening) :
    (c.step h).controller.Accounted key (sent + requeued key [h]) := by
  have hr := reacts_step c h
  generalize c.step h = r at hr ⊢
  have hmore : c.Accounted key (sent + requeued key [h]) :=
    ⟨ha.due, Nat.le_trans ha.covered (by omega)⟩
  cases hr with
  | idle => exact hmore
  | sent t =>
    refine ⟨ha.due, ?_⟩
    have hcovered := ha.covered
    have hcount : (c.send t).queue.count (.requeue key)
        = c.queue.count (.requeue key) + requeued key [.sent t] := by
      simp [send, requeued, List.count_singleton]
    have harmed : (c.send t).armed key = c.armed key := rfl
    have hentries : (c.send t).entries key = c.entries key := rfl
    rw [hcount, harmed, hentries]
    omega
  | elapsed hle => exact ha.of_eq rfl rfl rfl hle
  | fired ht hd => exact ha.fire hc ht hd
  | handled hq => exact ha.handle hc hq
  | ended hw report => exact ha.finish hc _ report
  | broke hw => exact ha.of_eq rfl rfl rfl (Nat.le_refl _)

theorem run (ha : c.Accounted key sent) (hc : c.Timekept) (hs : List Happening) :
    (c.run hs).1.Accounted key (sent + requeued key hs) := by
  induction hs generalizing c sent with
  | nil => exact ha
  | cons h rest ih =>
    have hrest := ih (ha.step hc h) (hc.step h)
    rwa [Nat.add_assoc, ← requeued_append] at hrest

/-- An entry is armed, or a requeue waits that is paid for with it. -/
theorem length_strays_le (ha : c.Accounted key sent) (hc : c.Timekept) :
    (c.strays key).length ≤ sent := by
  have hcovered := ha.covered
  have hle : (c.strays key).length ≤ (c.armed key).length := List.length_filter_le _ _
  cases hentry : c.scheduled.find? key with
  | none =>
    simp only [entries, hentry, Option.toList_none, List.length_nil] at hcovered
    omega
  | some t =>
    have he := hc.entry key t hentry
    simp only [entries, hentry, Option.toList_some, List.length_singleton] at hcovered
    rcases he.live with hlive | hwait
    · have hless : (c.strays key).length < (c.armed key).length :=
        List.length_filter_lt_length_iff_exists.mpr
          ⟨t, mem_armed.mpr ⟨hlive, he.key_eq⟩, by simp [hentry]⟩
      omega
    · have hcount := List.count_pos_iff.mpr hwait
      omega

theorem singleTimer (ha : c.Accounted key 0) (hc : c.Timekept) : c.SingleTimer key := by
  have hcovered := ha.covered
  have hone := c.length_entries_le key
  refine ⟨by omega, fun t ht => ?_⟩
  have hnone : c.strays key = [] :=
    List.eq_nil_of_length_eq_zero (Nat.le_zero.mp (ha.length_strays_le hc))
  have hkept := List.filter_eq_nil_iff.mp hnone t ht
  simpa using hkept

end Accounted

theorem accounted_run (window : Span) (backoff : Backoff) (hs : List Happening) (key : String) :
    ((initial window backoff).run hs).1.Accounted key (requeued key hs) := by
  have hrun := (accounted_initial window backoff key).run (timekept_initial window backoff) hs
  rwa [Nat.zero_add] at hrun

/-- A run in which no requeue of a blueprint is sent leaves it with a single timer. -/
theorem singleTimer_of_requeued_eq_zero (window : Span) (backoff : Backoff)
    (hs : List Happening) (key : String) (hnone : requeued key hs = 0) :
    ((initial window backoff).run hs).1.SingleTimer key := by
  have hrun := accounted_run window backoff hs key
  rw [hnone] at hrun
  exact hrun.singleTimer ((timekept_initial window backoff).run hs)

/-- **Timers that are left behind.** After every run, of the armed timers of a blueprint all but as
many as requeues of it were sent are its entry. So there are at most as many armed as the one that
is the entry and those that were left behind. -/
theorem strays_le_requeued (window : Span) (backoff : Backoff) (hs : List Happening)
    (key : String) :
    (((initial window backoff).run hs).1.strays key).length ≤ requeued key hs ∧
    (((initial window backoff).run hs).1.armed key).length
      ≤ (((initial window backoff).run hs).1.entries key).length + requeued key hs := by
  have hrun := accounted_run window backoff hs key
  have hkept := (timekept_initial window backoff).run hs
  exact ⟨hrun.length_strays_le hkept, Nat.le_trans (Nat.le_add_right _ _) hrun.covered⟩

/-- A requeue is sent while a timer is armed for the tenth second. The pass that it starts asks for
the next one in a second, and the entry being gone, a second timer is armed beside the first. -/
theorem two_timers_after_requeue :
    let again (delay : Span) : Report := ⟨"a", none, none, .requeueAfter delay⟩
    ¬ ((initial .zero .standard).run [.sent (.notify "a"), .handled,
      .ended "a" (again (.ofSeconds 10)), .sent (.requeue "a"), .handled,
      .ended "a" (again (.ofSeconds 1))]).1.SingleTimer "a" := by
  intro again hsingle
  exact absurd hsingle.length_le (by decide)

end BlueprintControl.Controller
