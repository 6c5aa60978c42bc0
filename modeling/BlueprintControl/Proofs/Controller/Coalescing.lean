import BlueprintControl.Proofs.Controller.Debouncers
import BlueprintControl.Proofs.Controller.Exclusion
import BlueprintControl.Proofs.Controller.Locality

/-!
# Bursts are coalesced

A pass is started for a notification that the debouncer admits, or for a requeue that is handled.
If nobody sends requeues and passes ask for nothing more, every requeue comes from a timer that was
armed for refused notifications, and an admitted notification leads to one such timer at most: once
it is armed for the end of the window, nothing that is refused within the window brings another. So
for one admitted notification there are at most two passes.

## Main definitions

* `Happening.Calm`: nobody sends requeues, and passes ask for nothing more.
* `Controller.admitted`, `Controller.takenUp`: the admitted notifications of a blueprint in a run,
  and the requeues of it that are handled.
* `Controller.outstanding`: the requeues of a blueprint that may be handled before the next
  notification of it is admitted.

## Main statements

* `count_run_le`: each pass is started for an admitted notification or a handled requeue.
* `outstanding_step_le`: what a calm happening does to the requeues that are outstanding.
* `count_started_le_twice`: at most two passes for one admitted notification.
-/
namespace BlueprintControl

/-- Only notifications come from outside, and passes end with nothing more to do. -/
def Happening.Calm : Happening → Prop
  | .sent t => ∃ key, t = .notify key
  | .ended _ report => report.decision = .rest
  | .broke _ => False
  | _ => True

theorem Happening.Calm.reported {h : Happening} (hh : h.Calm) : h.Reported := by
  cases h <;> trivial

namespace Controller

/-- A notification of a blueprint is handled, and the debouncer admits it. -/
def admits (c : Controller) (key : String) : Happening → Bool
  | .handled => c.queue.head? == some (.notify key) && (c.debounce.offer key c.now).1
  | _ => false

/-- A requeue of a blueprint is handled. -/
def takesUp (c : Controller) (key : String) : Happening → Bool
  | .handled => c.queue.head? == some (.requeue key)
  | _ => false

/-- The number of notifications of a blueprint that the debouncer admits in a run. -/
def admitted (c : Controller) (key : String) : List Happening → Nat
  | [] => 0
  | h :: rest => (c.admits key h).toNat + (c.step h).controller.admitted key rest

/-- The number of requeues of a blueprint that are handled in a run. -/
def takenUp (c : Controller) (key : String) : List Happening → Nat
  | [] => 0
  | h :: rest => (c.takesUp key h).toNat + (c.step h).controller.takenUp key rest

/-! ## What passes are started for -/

section Starting

variable {c : Controller} {key : String}

/-- One for a blueprint whose pass has to run again. -/
def marks (c : Controller) (key : String) : Nat := (c.dirty.contains key).toNat

theorem marks_le_one (c : Controller) (key : String) : c.marks key ≤ 1 := Bool.toNat_le _

theorem marks_congr {d : Controller} (h : key ∈ d.dirty ↔ key ∈ c.dirty) :
    d.marks key = c.marks key := by
  have hcontains : d.dirty.contains key = c.dirty.contains key := by
    rw [Bool.eq_iff_iff, List.contains_iff_mem, List.contains_iff_mem, h]
  rw [marks, hcontains, marks]

/-- A request starts a pass or leaves a mark. -/
theorem count_request_le (c : Controller) (key : String) :
    (c.request key).started.toList.count key + (c.request key).controller.marks key
      ≤ c.marks key + 1 := by
  unfold request
  split
  case isTrue =>
    have hle := marks_le_one { c with dirty := c.dirty.insert key } key
    simp only [Option.toList_none, List.count_nil]
    omega
  case isFalse =>
    have hsame : (c.start key).controller.marks key = c.marks key := rfl
    simp [start] at hsame ⊢
    omega

/-- The next trigger: an admitted notification or a requeue is a request, and a refused notification
is nothing of the kind. -/
theorem count_handled_le {t : Trigger} {rest : List Trigger} (hq : c.queue = t :: rest)
    (hk : t.key = key) :
    (c.step .handled).started.toList.count key + (c.step .handled).controller.marks key
      ≤ c.marks key + (c.admits key .handled).toNat + (c.takesUp key .handled).toNat := by
  cases t with
  | notify other =>
    obtain rfl : other = key := hk
    have hadmits : c.admits other .handled = (c.debounce.offer other c.now).1 := by
      simp [admits, hq]
    simp only [step, hq, handle, hadmits]
    by_cases hadmitted : (c.debounce.offer other c.now).1 = true
    · simp only [hadmitted, if_true, Bool.toNat_true]
      exact Nat.le_trans (count_request_le _ other) (Nat.le_add_right _ _)
    · simp only [hadmitted]
      refine Nat.le_trans (Nat.le_of_eq ?_) (Nat.le_add_right _ _)
      simp [marks]
  | requeue other =>
    obtain rfl : other = key := hk
    have htakes : c.takesUp other .handled = true := by simp [takesUp, hq]
    simp only [step, hq, handle, htakes, Bool.toNat_true]
    refine Nat.le_trans (count_request_le _ other) ?_
    exact Nat.add_le_add_right (Nat.le_add_right _ _) 1

/-- The end of a pass starts one for a mark only. -/
theorem count_finish_le (c : Controller) (key : String) (r : Report) :
    (c.finish key r).started.toList.count key + (c.finish key r).controller.marks key
      ≤ c.marks key := by
  simp only [finish]
  split
  case isTrue hd => simp [start, marks, show key ∈ c.dirty by simpa using hd]
  case isFalse => simp [marks]

/-- A pass is started for an admitted notification, for a requeue, or for a mark. -/
theorem count_step_le (hc : c.Timekept) (key : String) (h : Happening) :
    (c.step h).started.toList.count key + (c.step h).controller.marks key
      ≤ c.marks key + (c.admits key h).toNat + (c.takesUp key h).toNat := by
  by_cases hs : c.subject? h = some key
  · have hr := reacts_step c h
    generalize hstep : c.step h = r at hr ⊢
    cases hr with
    | idle | sent | elapsed | fired | broke =>
      exact Nat.le_add_right_of_le (Nat.le_add_right_of_le (Nat.le_of_eq (Nat.zero_add _)))
    | @handled t rest hq =>
      rw [← hstep]
      exact count_handled_le hq (by simpa [subject?, hq] using hs)
    | @ended other hw report =>
      obtain rfl : other = key := Option.some.inj hs
      exact Nat.le_add_right_of_le (Nat.le_add_right_of_le (count_finish_le c other report))
  · have hmarks := marks_congr (untouched_step hc hs).dirty
    have hnone : (c.step h).started.toList.count key = 0 := by
      refine List.count_eq_zero.mpr fun hm => hs (subject?_of_started ?_)
      simpa using hm
    omega

theorem count_run_le (hc : c.Timekept) (key : String) (hs : List Happening) :
    (c.run hs).2.count key + (c.run hs).1.marks key
      ≤ c.marks key + c.admitted key hs + c.takenUp key hs := by
  induction hs generalizing c with
  | nil => simp [admitted, takenUp]
  | cons h rest ih =>
    have hstep := count_step_le hc key h
    have hrest := ih (hc.step h)
    simp only [run_cons, List.count_append, admitted, takenUp]
    omega

end Starting

/-! ## What requeues come from -/

section Outstanding

variable {c d : Controller} {key : String}

/-- The last admitted notification leads to no further timer: there is no mark, and either the
window is over, or no pass is at work and the entry is not due before the end of the window. -/
def settled (c : Controller) (key : String) : Bool :=
  let d := c.debounce.debouncer key
  !d.pending && (d.gate.isOpen c.now ||
    !c.inFlight.contains key && (c.scheduled.find? key).any fun t => d.gate.isOpen t.deadline)

/-- The requeues of a blueprint that may be handled before the next notification is admitted. -/
def outstanding (c : Controller) (key : String) : Nat :=
  (c.entries key).length + (!c.settled key).toNat

theorem settled_iff : c.settled key = true ↔ (c.debounce.debouncer key).pending = false ∧
    ((c.debounce.debouncer key).gate.isOpen c.now = true ∨ key ∉ c.inFlight ∧
      ∃ t, c.scheduled.find? key = some t ∧
        (c.debounce.debouncer key).gate.isOpen t.deadline = true) := by
  simp [settled, Option.any_eq_true]

theorem length_entries_le_outstanding (c : Controller) (key : String) :
    (c.entries key).length ≤ c.outstanding key := Nat.le_add_right _ _

theorem outstanding_le (c : Controller) (key : String) :
    c.outstanding key ≤ (c.entries key).length + 1 :=
  Nat.add_le_add_left (Bool.toNat_le _) _

theorem outstanding_of_settled (h : c.settled key = true) :
    c.outstanding key = (c.entries key).length := by
  simp [outstanding, h]

theorem outstanding_of_not_settled (h : ¬ c.settled key = true) :
    c.outstanding key = (c.entries key).length + 1 := by
  simp [outstanding, h]

/-- While the window lasts, a timer is armed or may yet be. -/
theorem outstanding_pos (h : ¬ (c.debounce.debouncer key).gate.isOpen c.now = true) :
    0 < c.outstanding key := by
  by_cases hs : c.settled key = true
  · obtain ⟨-, ho | ⟨-, t, ht, -⟩⟩ := settled_iff.mp hs
    · exact absurd ho h
    · simp [outstanding_of_settled hs, entries, ht]
  · rw [outstanding_of_not_settled hs]
    exact Nat.succ_pos _

/-- Time goes on, marks are taken away and passes end. -/
theorem settled_mono (hgate : (d.debounce.debouncer key).gate = (c.debounce.debouncer key).gate)
    (hpending : (c.debounce.debouncer key).pending = false →
      (d.debounce.debouncer key).pending = false)
    (hscheduled : d.scheduled.find? key = c.scheduled.find? key)
    (hflight : key ∈ d.inFlight → key ∈ c.inFlight) (hnow : c.now.nanos ≤ d.now.nanos)
    (h : c.settled key = true) : d.settled key = true := by
  obtain ⟨hclean, hover⟩ := settled_iff.mp h
  refine settled_iff.mpr ⟨hpending hclean, ?_⟩
  rw [hgate, hscheduled]
  exact hover.imp (fun ho => Gate.isOpen_mono ho hnow) (And.imp_left fun hk hin => hk (hflight hin))

theorem outstanding_mono (hscheduled : d.scheduled.find? key = c.scheduled.find? key)
    (hsettled : c.settled key = true → d.settled key = true) :
    d.outstanding key ≤ c.outstanding key := by
  have hentries : d.entries key = c.entries key := by rw [entries, hscheduled, entries]
  by_cases hc : c.settled key = true
  · refine Nat.le_of_eq ?_
    rw [outstanding_of_settled hc, outstanding_of_settled (hsettled hc), hentries]
  · rw [outstanding_of_not_settled hc, ← hentries]
    exact outstanding_le d key

/-- A blueprint that is left alone. -/
theorem Untouched.outstanding_le (h : Untouched key c d) (hnow : c.now.nanos ≤ d.now.nanos) :
    d.outstanding key ≤ c.outstanding key := by
  have hdebouncer : d.debounce.debouncer key = c.debounce.debouncer key := by
    rw [DebounceRegistry.debouncer, h.debouncer, DebounceRegistry.debouncer]
  refine outstanding_mono h.scheduled (settled_mono ?_ ?_ h.scheduled h.inFlight.mp hnow)
  · rw [hdebouncer]
  · rw [hdebouncer]
    exact id

/-- After a delay either nothing has changed, or the entry is a timer for the end of the delay. -/
theorem schedule_eq_or_entry (c : Controller) (key : String) (delay : Span) :
    c.schedule key delay = c ∨ ∃ t, (c.schedule key delay).scheduled.find? key = some t ∧
      c.now.add? delay = some t.deadline := by
  unfold schedule
  split
  case h_1 => exact .inl rfl
  case h_2 deadline hdeadline =>
    split
    case h_1 t ht =>
      split
      case isTrue => exact .inl rfl
      case isFalse => exact .inr ⟨⟨c.issued, key, deadline⟩, by simp [arm, disarm], hdeadline⟩
    case h_2 => exact .inr ⟨⟨c.issued, key, deadline⟩, by simp [arm], hdeadline⟩

/-- A timer for the end of the window is the last one that the window brings. -/
theorem outstanding_schedule_le (hsound : (c.debounce.debouncer key).Sound)
    (hclean : (c.debounce.debouncer key).pending = false) (hk : key ∉ c.inFlight) :
    (c.schedule key ((c.debounce.debouncer key).gate.remaining c.now)).outstanding key
      ≤ max (c.outstanding key) 1 := by
  rcases schedule_eq_or_entry c key ((c.debounce.debouncer key).gate.remaining c.now) with
    hsame | ⟨t, ht, hdeadline⟩
  · rw [hsame]
    exact Nat.le_max_left _ _
  · refine Nat.le_trans ?_ (Nat.le_max_right _ _)
    rw [outstanding_of_settled]
    · exact length_entries_le _ _
    · refine settled_iff.mpr ⟨by simpa using hclean, .inr ⟨by simpa using hk, t, ht, ?_⟩⟩
      simpa using hsound.isOpen_of_remaining hdeadline

theorem debouncer_collected (c : Controller) (key : String) :
    (c.collect key).2.debounce.debouncer key = ⟨(c.debounce.debouncer key).gate, false⟩ := by
  rw [← Debouncer.snd_collect _ c.now]
  exact (DebounceRegistry.debouncer_collect c.debounce key key c.now).trans (if_pos rfl)

/-- A mark is taken away, and no timer is armed yet. -/
theorem outstanding_collect_le
    (hgate : (d.debounce.debouncer key).gate = (c.debounce.debouncer key).gate)
    (hscheduled : d.scheduled.find? key = c.scheduled.find? key)
    (hflight : key ∈ d.inFlight → key ∈ c.inFlight) (hnow : c.now.nanos ≤ d.now.nanos) :
    (d.collect key).2.outstanding key ≤ c.outstanding key := by
  have hdebouncer := debouncer_collected d key
  refine outstanding_mono hscheduled (settled_mono ?_ ?_ hscheduled hflight hnow)
  · rw [hdebouncer, hgate]
  · rw [hdebouncer]
    exact fun _ => rfl

theorem toNat_pending_le (c : Controller) (key : String) :
    (c.debounce.debouncer key).pending.toNat ≤ c.outstanding key := by
  cases hp : (c.debounce.debouncer key).pending with
  | false => exact Nat.zero_le _
  | true =>
    have hs : ¬ c.settled key = true := fun hs => by
      rw [(settled_iff.mp hs).1] at hp
      cases hp
    rw [outstanding_of_not_settled hs]
    exact Nat.le_add_left 1 _

/-- Without a pass at work, a mark makes way for a timer. -/
theorem outstanding_follow_le (hsound : (c.debounce.debouncer key).Sound)
    (hk : key ∉ c.inFlight) :
    (c.follow key none).outstanding key
      ≤ max ((c.collect key).2.outstanding key) (c.debounce.debouncer key).pending.toNat := by
  have hdebouncer := debouncer_collected c key
  have hanswer : (c.collect key).1 = ((c.debounce.debouncer key).collect c.now).1 :=
    DebounceRegistry.fst_collect ..
  have hfollow : c.follow key none = if (c.debounce.debouncer key).pending then
      (c.collect key).2.schedule key ((c.debounce.debouncer key).gate.remaining c.now)
      else (c.collect key).2 := by
    simp only [follow, hanswer, Debouncer.collect]
    cases (c.debounce.debouncer key).pending <;> rfl
  rw [hfollow]
  cases hp : (c.debounce.debouncer key).pending with
  | false => exact Nat.le_max_left _ _
  | true =>
    have hcollected : ((c.collect key).2.debounce.debouncer key).Sound := by
      rw [hdebouncer, ← Debouncer.snd_collect _ c.now]
      exact hsound.collect c.now
    have hle := outstanding_schedule_le hcollected (by rw [hdebouncer]) hk
    rwa [hdebouncer] at hle

end Outstanding

section Calm

variable {c d : Controller} {key : String}

/-- What holds along every run in which nobody sends requeues. -/
structure Orderly (c : Controller) (key : String) : Prop where
  timekept : c.Timekept
  exclusive : c.Exclusive
  accounted : c.Accounted key 0
  sound : (c.debounce.debouncer key).Sound

theorem orderly_initial (window : Span) (backoff : Backoff) (key : String) :
    (initial window backoff).Orderly key where
  timekept := timekept_initial window backoff
  exclusive := exclusive_initial window backoff
  accounted := accounted_initial window backoff key
  sound := Debouncer.sound_initial

theorem Orderly.step (hc : c.Orderly key) {h : Happening} (hh : h.Calm) :
    (c.step h).controller.Orderly key where
  timekept := hc.timekept.step h
  exclusive := hc.exclusive.step hh.reported
  accounted := by
    have hnone : requeued key [h] = 0 := by
      cases h with
      | sent t =>
        obtain ⟨other, rfl⟩ := hh
        simp [requeued]
      | _ => rfl
    have hstep := hc.accounted.step hc.timekept h
    rwa [hnone] at hstep
  sound := debouncer_step (fun _ now window hd => hd.offer now window)
    (fun _ now hd => hd.collect now) hc.sound h

@[simp] theorem request_frame (c : Controller) (key : String) :
    (c.request key).controller.now = c.now ∧
    (c.request key).controller.scheduled = c.scheduled := by
  unfold request
  split <;> exact ⟨rfl, rfl⟩

/-- A refused notification brings a timer only if the window has none. -/
theorem outstanding_refuse_le (hsound : (c.debounce.debouncer key).Sound)
    (hrefused : ¬ (c.debounce.offer key c.now).1 = true)
    (hd : d.debounce = (c.debounce.offer key c.now).2) (hs : d.scheduled = c.scheduled)
    (hi : d.inFlight = c.inFlight) (hn : d.now = c.now) :
    (d.refuse key).outstanding key ≤ c.outstanding key := by
  have hclosed : ¬ (c.debounce.debouncer key).gate.isOpen c.now = true := fun ho => by
    simp [Debouncer.offer, ho] at hrefused
  have hoffered := DebounceRegistry.debouncer_offer c.debounce key key c.now
  rw [if_pos rfl, ← hd] at hoffered
  have hentry : d.scheduled.find? key = c.scheduled.find? key := congrArg (·.find? key) hs
  rw [refuse_eq]
  split
  case isTrue hk =>
    -- The end of the pass will see to the mark.
    have hflight : key ∈ c.inFlight := hi ▸ by simpa using hk
    have hunsettled : ¬ c.settled key = true := fun h =>
      (settled_iff.mp h).2.elim hclosed fun hover => hover.1 hflight
    rw [outstanding_of_not_settled hunsettled, entries, ← hentry]
    exact outstanding_le _ key
  case isFalse hk =>
    refine Nat.le_trans (outstanding_follow_le ?_ (by simpa using hk)) (Nat.max_le.mpr ⟨?_, ?_⟩)
    · exact hoffered ▸ hsound.offer c.now _
    · refine outstanding_collect_le ?_ hentry (fun h => hi ▸ h) (Nat.le_of_eq (hn ▸ rfl))
      change (d.debounce.debouncer key).gate = _
      rw [hoffered, Debouncer.offer_of_refused hrefused]
    · exact Nat.le_trans (Bool.toNat_le _) (outstanding_pos hclosed)

/-- The next notification. One that is admitted opens a window, which may bring a timer. -/
theorem outstanding_notified_le (hc : c.Orderly key) {rest : List Trigger}
    (hq : c.queue = .notify key :: rest) :
    (c.step .handled).controller.outstanding key
      ≤ c.outstanding key + (c.admits key .handled).toNat := by
  have hadmits : c.admits key .handled = (c.debounce.offer key c.now).1 := by simp [admits, hq]
  simp only [step, hq, handle, hadmits]
  by_cases hadmitted : (c.debounce.offer key c.now).1 = true
  · simp only [hadmitted, if_true]
    have hentries := length_entries_le_outstanding c key
    refine Nat.le_trans (outstanding_le _ key) (Nat.add_le_add_right ?_ 1)
    simpa [entries] using hentries
  · simp only [hadmitted]
    exact outstanding_refuse_le hc.sound hadmitted rfl rfl rfl rfl

/-- The entry goes with the requeue. If it was due at the end of the window, the window is over. -/
theorem outstanding_requeued_lt (hc : c.Orderly key) {rest : List Trigger}
    (hq : c.queue = .requeue key :: rest) :
    (c.step .handled).controller.outstanding key < c.outstanding key := by
  have hcovered := hc.accounted.covered
  have hone := c.length_entries_le key
  rw [hq, List.count_cons_self] at hcovered
  have harmed : c.armed key = [] := List.eq_nil_of_length_eq_zero (by omega)
  have hentry : (c.entries key).length = 1 := by omega
  have hnone : (c.step .handled).controller.entries key = [] := by
    simp [step, hq, handle, entries]
  by_cases hs : c.settled key = true
  · obtain ⟨hclean, hover⟩ := settled_iff.mp hs
    have hopen : (c.debounce.debouncer key).gate.isOpen c.now = true := by
      rcases hover with hopen | ⟨-, t, ht, hend⟩
      · exact hopen
      · -- No timer is armed, so that of the entry has fired.
        have hdue := (hc.accounted.due t ht).resolve_left fun hlive => by
          have hmem := mem_armed.mpr ⟨hlive, (hc.timekept.entry key t ht).key_eq⟩
          simp [harmed] at hmem
        exact Gate.isOpen_mono hend hdue
    have hafter : (c.step .handled).controller.settled key = true :=
      settled_iff.mpr (by simp [step, hq, handle, hclean, hopen])
    rw [outstanding_of_settled hs, hentry, outstanding_of_settled hafter, hnone]
    exact Nat.zero_lt_one
  · rw [outstanding_of_not_settled hs, hentry]
    refine Nat.lt_of_le_of_lt (outstanding_le _ key) ?_
    simp [hnone]

/-- The end of a pass that asks for nothing more leaves a mark to the next pass, or arms the timer
that nobody has armed while the pass was at work. -/
theorem outstanding_finish_le (hc : c.Orderly key) {r : Report} (hr : r.decision = .rest) :
    (c.finish key r).controller.outstanding key ≤ c.outstanding key := by
  simp only [finish, hr, delayAfter]
  split
  case isTrue hdirty =>
    refine outstanding_mono rfl (settled_mono rfl id rfl (fun _ => ?_) (Nat.le_refl _))
    exact hc.exclusive.inFlight_of_dirty key (by simpa using hdirty)
  case isFalse =>
    refine Nat.le_trans (outstanding_follow_le hc.sound (by simp)) ?_
    refine Nat.max_le.mpr ⟨?_, toNat_pending_le c key⟩
    exact outstanding_collect_le rfl rfl (by simp) (Nat.le_refl _)

theorem outstanding_handled_le (hc : c.Orderly key) {t : Trigger} {rest : List Trigger}
    (hq : c.queue = t :: rest) (hk : t.key = key) :
    (c.takesUp key .handled).toNat + (c.step .handled).controller.outstanding key
      ≤ c.outstanding key + (c.admits key .handled).toNat := by
  cases t with
  | notify other =>
    obtain rfl : other = key := hk
    have hle := outstanding_notified_le hc hq
    have htakes : c.takesUp other .handled = false := by simp [takesUp, hq]
    rw [htakes]
    simpa using hle
  | requeue other =>
    obtain rfl : other = key := hk
    have hlt := outstanding_requeued_lt hc hq
    have hle := Bool.toNat_le (c.takesUp other .handled)
    omega

theorem outstanding_step_le_of_ne (hc : c.Orderly key) {h : Happening} (hh : h.Calm)
    (hne : h ≠ .handled) (hs : c.subject? h = some key) :
    (c.step h).controller.outstanding key ≤ c.outstanding key := by
  have hr := reacts_step c h
  generalize c.step h = r at hr ⊢
  cases hr with
  | idle => exact Nat.le_refl _
  | sent t => exact Nat.le_refl _
  | elapsed hle => cases hs
  | fired ht hd => exact Nat.le_refl _
  | handled hq => exact absurd rfl hne
  | @ended other hw report =>
    obtain rfl : other = key := Option.some.inj hs
    exact outstanding_finish_le hc hh
  | broke hw => exact hh.elim

theorem takesUp_of_ne {h : Happening} (hs : c.subject? h ≠ some key) :
    c.takesUp key h = false := by
  refine Bool.eq_false_iff.mpr fun htakes => hs ?_
  cases h with
  | handled =>
    have hq : c.queue.head? = some (.requeue key) := by simpa [takesUp] using htakes
    rw [subject?, hq]
    rfl
  | _ => cases htakes

/-- A calm happening makes one more requeue outstanding if a
notification is admitted, and one less if a requeue is handled. -/
theorem outstanding_step_le (hc : c.Orderly key) {h : Happening} (hh : h.Calm) :
    (c.takesUp key h).toNat + (c.step h).controller.outstanding key
      ≤ c.outstanding key + (c.admits key h).toNat := by
  by_cases hs : c.subject? h = some key
  · cases h with
    | handled =>
      cases hq : c.queue with
      | nil => simp [subject?, hq] at hs
      | cons t rest => exact outstanding_handled_le hc hq (by simpa [subject?, hq] using hs)
    | _ => simpa [takesUp, admits] using outstanding_step_le_of_ne hc hh (by simp) hs
  · have hle := (untouched_step hc.timekept hs).outstanding_le (now_le_step c h)
    rw [takesUp_of_ne hs, Bool.toNat_false]
    omega

theorem takenUp_run_le (hc : c.Orderly key) {hs : List Happening} (hcalm : ∀ h ∈ hs, h.Calm) :
    c.takenUp key hs + (c.run hs).1.outstanding key ≤ c.outstanding key + c.admitted key hs := by
  induction hs generalizing c with
  | nil => simp [takenUp, admitted]
  | cons h rest ih =>
    obtain ⟨hh, hrest⟩ := List.forall_mem_cons.mp hcalm
    have hstep := outstanding_step_le hc hh
    have hafter := ih (hc.step hh) hrest
    simp only [takenUp, admitted, run_cons]
    omega

end Calm

/-- **Bursts are coalesced.** Whatever notifications are sent and whenever, however long passes take
and however late timers fire: in a calm run at most two passes of a blueprint are started for one
notification of it that the debouncer admits. -/
theorem count_started_le_twice (window : Span) (backoff : Backoff) (hs : List Happening)
    (key : String) (hcalm : ∀ h ∈ hs, h.Calm) :
    ((initial window backoff).run hs).2.count key
      ≤ 2 * (initial window backoff).admitted key hs := by
  have hcount := count_run_le (timekept_initial window backoff) key hs
  have htaken := takenUp_run_le (orderly_initial window backoff key) hcalm
  have hmarks : (initial window backoff).marks key = 0 := by simp [marks, initial]
  have hnothing : (initial window backoff).outstanding key = 0 := by
    simp [outstanding, settled, entries, initial, DebounceRegistry.make,
      DebounceRegistry.debouncer, Debouncer.initial, Gate.isOpen]
  omega

/-- A notification that is refused while the pass for the first one is at work gets its own pass
when the window is over, and the bound is met. -/
theorem count_started_two_of_burst :
    let burst : List Happening := [.sent (.notify "a"), .handled, .sent (.notify "a"), .handled,
      .ended "a" ⟨"a", some .completed, none, .rest⟩, .elapsed ⟨10 * nanosPerSecond⟩, .fired 0,
      .handled]
    let c := initial (.ofSeconds 10) .standard
    (∀ h ∈ burst, h.Calm) ∧ (c.run burst).2.count "a" = 2 ∧ c.admitted "a" burst = 1 ∧
      (c.run burst).2.count "a" ≤ 2 * c.admitted "a" burst := by
  intro burst c
  have hcalm : ∀ h ∈ burst, h.Calm := by simp [burst, Happening.Calm]
  exact ⟨hcalm, by decide, by decide, count_started_le_twice _ _ burst "a" hcalm⟩

end Controller
end BlueprintControl
