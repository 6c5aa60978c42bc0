import BlueprintControl.Proofs.Controller.Debouncers
import BlueprintControl.Proofs.Controller.Exclusion
import BlueprintControl.Proofs.Controller.Timers

/-!
# No notification is lost

A notification that does not start a pass leaves a debt behind: the blueprint is marked while its
pass is in flight, or the debouncer keeps a mark for the end of this pass, or a timer will ask for
a pass, or has asked already. Every happening passes the debt on until a pass is started.

## Main definitions

* `Controller.Owed`: the four places where the debt can be.

## Main statements

* `owed_handle_notify`: handling a notification starts a pass or leaves a debt.
* `Owed.step`: a happening that starts no pass of the blueprint keeps the debt.
* `owed_of_notified`: from a notification on, there is a debt until a pass is started.
-/
namespace BlueprintControl.Controller

/-- A pass of the blueprint is still to come. -/
inductive Owed (c : Controller) (key : String) : Prop where
  /-- The pass in flight will run again. -/
  | dirty (hd : key ∈ c.dirty) (hk : key ∈ c.inFlight)
  /-- The debouncer has a mark, which the end of the pass in flight will see. -/
  | marked (hk : key ∈ c.inFlight) (hp : (c.debounce.debouncer key).pending = true)
  /-- A timer of the blueprint is armed. -/
  | armed (t : Timer) (ht : t ∈ c.timers) (hk : t.key = key)
  /-- A requeue of the blueprint waits to be handled. -/
  | waiting (hq : .requeue key ∈ c.queue)

theorem Asked.owed {c : Controller} {key : String} (ha : c.Asked key) : c.Owed key := by
  rcases ha with ⟨t, ht, hk⟩ | hq
  · exact .armed t ht hk
  · exact .waiting hq

/-! ## What keeps a debt -/

section Keeping

variable {c d : Controller} {key : String}

/-- A debt stays as long as nothing is taken away that has to do with the blueprint. -/
theorem Owed.mono (ho : c.Owed key) (hi : key ∈ c.inFlight → key ∈ d.inFlight)
    (hd : key ∈ c.dirty → key ∈ d.dirty)
    (hp : (c.debounce.debouncer key).pending = true → (d.debounce.debouncer key).pending = true)
    (ht : ∀ t ∈ c.timers, t ∈ d.timers)
    (hq : .requeue key ∈ c.queue → .requeue key ∈ d.queue) : d.Owed key := by
  cases ho with
  | dirty hmark hk => exact .dirty (hd hmark) (hi hk)
  | marked hk hmark => exact .marked (hi hk) (hp hmark)
  | armed t harmed hk => exact .armed t (ht t harmed) hk
  | waiting hwait => exact .waiting (hq hwait)

/-- `Owed` reads nothing else. -/
theorem Owed.of_eq (ho : c.Owed key) (hi : d.inFlight = c.inFlight) (hd : d.dirty = c.dirty)
    (hb : d.debounce = c.debounce) (ht : d.timers = c.timers) (hq : d.queue = c.queue) :
    d.Owed key := by
  refine ho.mono ?_ ?_ ?_ ?_ ?_
  · exact fun h => hi ▸ h
  · exact fun h => hd ▸ h
  · exact fun h => hb ▸ h
  · exact fun _ h => ht ▸ h
  · exact fun h => hq ▸ h

theorem Owed.schedule (ho : c.Owed key) (hc : c.Timekept) (other : String) (delay : Span) :
    (c.schedule other delay).Owed key := by
  cases ho with
  | dirty hmark hk => exact .dirty (by simpa using hmark) (by simpa using hk)
  | marked hk hmark => exact .marked (by simpa using hk) (by simpa using hmark)
  | armed t harmed hk => exact (Asked.schedule (.inl ⟨t, harmed, hk⟩) hc other delay).owed
  | waiting hwait => exact (Asked.schedule (.inr hwait) hc other delay).owed

theorem Owed.request (ho : c.Owed key) (other : String) :
    (c.request other).controller.Owed key := by
  refine ho.mono (fun h => (request_of_inFlight h other).2) (fun h => request_of_dirty h other)
    (by simp) ?_ ?_ <;> unfold Controller.request <;> split
  · exact fun _ ht => ht
  · exact fun _ ht => ht
  · exact fun hq => hq
  · exact fun hq => hq

/-- The marks of other blueprints are not collected. -/
theorem Owed.collect (ho : c.Owed key) {other : String} (hne : key ≠ other) :
    (c.collect other).2.Owed key :=
  ho.mono (fun h => h) (fun h => h) (by simp [hne]) (fun _ ht => ht) (fun hq => hq)

theorem Owed.follow (ho : c.Owed key) (hc : c.Timekept) {other : String} (hne : key ≠ other)
    (delay : Option Span) : (c.follow other delay).Owed key := by
  simp only [Controller.follow]
  split
  · exact (ho.collect hne).schedule (hc.collect other) other _
  · exact ho.collect hne

theorem Owed.refuse (ho : c.Owed key) (hc : c.Timekept) {other : String} (hne : key ≠ other) :
    (c.refuse other).Owed key := by
  have hrefused : ({ c with summary := c.summary.refused } : Controller).Owed key :=
    ho.of_eq rfl rfl rfl rfl rfl
  rw [refuse_eq]
  split
  · exact hrefused
  · refine hrefused.follow ?_ hne none
    exact hc.of_eq rfl rfl rfl fun _ h => h

/-- What follows a pass asks for the blueprint again, if it was asked for already. -/
theorem Asked.follow (ha : c.Asked key) (hc : c.Timekept) (delay : Option Span) :
    (c.follow key delay).Asked key := by
  have hcollect : (c.collect key).2.Asked key := ha
  simp only [Controller.follow]
  split
  · exact hcollect.schedule (hc.collect key) key _
  · exact hcollect

end Keeping

/-! ## What makes a debt -/

section Making

variable {c : Controller} {key : String}

/-- A request that starts no pass of the blueprint marks it. -/
theorem owed_request (hs : (c.request key).started ≠ some key) :
    (c.request key).controller.Owed key := by
  by_cases hk : key ∈ c.inFlight
  · exact .dirty (dirty_request_self hk) (request_of_inFlight hk key).2
  · have hc : ¬ c.inFlight.contains key = true := by simpa using hk
    rw [request, if_neg hc] at hs
    exact absurd rfl hs

/-- The mark of the debouncer is taken over by a timer that is due when the window ends. -/
theorem asked_follow (hc : c.Timekept) (hd : (c.debounce.debouncer key).Sound)
    (hp : (c.debounce.debouncer key).pending = true)
    (hg : (c.debounce.debouncer key).gate ≠ .closed) (hnow : c.now.nanos < Moment.horizon)
    (delay : Option Span) : (c.follow key delay).Asked key := by
  let remaining := (c.debounce.debouncer key).gate.remaining c.now
  have hcollect : (c.debounce.collect key c.now).1 = (true, remaining) := by
    simp [Debouncer.collect, hp, remaining]
  obtain ⟨d, hshort, hle⟩ : ∃ d, shorter delay (some remaining) = some d ∧
      d.nanos ≤ remaining.nanos := by
    cases delay with
    | none => exact ⟨remaining, rfl, Nat.le_refl _⟩
    | some a => exact ⟨a.min remaining, rfl, Span.nanos_min a remaining ▸ Nat.min_le_right _ _⟩
  simp only [follow, Controller.collect, hcollect, if_true, hshort]
  exact asked_schedule (hc.collect key) (hd.exists_deadline hp hg hnow hle)

/-- A notification that is refused leaves its mark with the pass in flight, or else a timer takes
the mark over. -/
theorem owed_refuse (hc : c.Timekept) (hd : (c.debounce.debouncer key).Sound)
    (hp : (c.debounce.debouncer key).pending = true)
    (hg : (c.debounce.debouncer key).gate ≠ .closed) (hnow : c.now.nanos < Moment.horizon) :
    (c.refuse key).Owed key := by
  rw [refuse_eq]
  split
  case isTrue hk => exact .marked (by simpa using hk) hp
  case isFalse =>
    have hrefused : ({ c with summary := c.summary.refused } : Controller).Timekept :=
      hc.of_eq rfl rfl rfl fun _ h => h
    exact (asked_follow hrefused hd hp hg hnow none).owed

end Making

/-! ## From happening to happening -/

section Passing

variable {c : Controller} {key : String}

/-- Handling a notification starts a pass or leaves a debt. -/
theorem owed_handle_notify (hc : c.Timekept) (hd : (c.debounce.debouncer key).Sound)
    (hg : (c.debounce.debouncer key).gate ≠ .closed) (hnow : c.now.nanos < Moment.horizon)
    (hs : (c.handle (.notify key)).started ≠ some key) :
    (c.handle (.notify key)).controller.Owed key := by
  simp only [handle] at hs ⊢
  split
  case isTrue hadmitted =>
    rw [if_pos hadmitted] at hs
    exact owed_request hs
  case isFalse hrefused =>
    have hoffer : (c.debounce.offer key c.now).2.debouncer key
        = ⟨(c.debounce.debouncer key).gate, true⟩ := by
      rw [DebounceRegistry.debouncer_offer, if_pos rfl]
      exact Debouncer.offer_of_refused (by simpa using hrefused)
    have hsound : ((c.debounce.offer key c.now).2.debouncer key).Sound := by
      rw [DebounceRegistry.debouncer_offer, if_pos rfl]
      exact hd.offer _ _
    refine owed_refuse ?_ hsound (by simp only [hoffer]) (by simpa only [hoffer] using hg) hnow
    exact hc.of_eq rfl rfl rfl fun _ h => h

/-- Handling a notification of another blueprint. -/
theorem Owed.handle_notify (ho : c.Owed key) (hc : c.Timekept) {other : String}
    (hne : key ≠ other) : (c.handle (.notify other)).controller.Owed key := by
  have hoffered : ({ c with
      debounce := (c.debounce.offer other c.now).2,
      summary := c.summary.notified } : Controller).Owed key :=
    ho.mono (fun h => h) (fun h => h) (by simp [hne]) (fun _ ht => ht) (fun hq => hq)
  simp only [handle]
  split
  · exact hoffered.request other
  · refine hoffered.refuse ?_ hne
    exact hc.of_eq rfl rfl rfl fun _ h => h

/-- Taking a trigger off the queue passes the debt on, whatever the trigger is. -/
theorem Owed.handle {t : Trigger} {rest : List Trigger} (ho : c.Owed key) (hc : c.Timekept)
    (hq : c.queue = t :: rest) (hd : (c.debounce.debouncer key).Sound)
    (hg : (c.debounce.debouncer key).gate ≠ .closed) (hnow : c.now.nanos < Moment.horizon)
    (hs : ({ c with queue := rest }.handle t).started ≠ some key) :
    ({ c with queue := rest }.handle t).controller.Owed key := by
  by_cases hwait : t = .requeue key
  · subst hwait
    exact owed_request hs
  have hleft : ({ c with queue := rest } : Controller).Owed key := by
    refine ho.mono (fun h => h) (fun h => h) (fun h => h) (fun _ ht => ht) ?_
    intro h
    rw [hq, List.mem_cons] at h
    exact h.resolve_left (Ne.symm hwait)
  cases t with
  | notify other =>
    have hkept : ({ c with queue := rest } : Controller).Timekept :=
      hc.of_eq rfl rfl rfl fun k h => by simpa [hq] using h
    by_cases hne : key = other
    · subst hne
      exact owed_handle_notify hkept hd hg hnow hs
    · exact hleft.handle_notify hkept hne
  | requeue other =>
    refine Owed.request ?_ other
    exact hleft.of_eq rfl rfl rfl rfl rfl

/-- The end of a pass passes the debt on to a timer, unless it starts the next pass. -/
theorem Owed.finish (ho : c.Owed key) (hc : c.Timekept)
    (hd : (c.debounce.debouncer key).Sound) (hg : (c.debounce.debouncer key).gate ≠ .closed)
    (hnow : c.now.nanos < Moment.horizon) {other : String} {r : Report}
    (hs : (c.finish other r).started ≠ some key) : (c.finish other r).controller.Owed key := by
  simp only [Controller.finish] at hs ⊢
  by_cases hne : key = other
  · subst hne
    split at hs
    case isTrue => exact absurd rfl hs
    case isFalse hclean =>
      rw [if_neg hclean]
      refine Asked.owed ?_
      cases ho with
      | dirty hmark hk => exact absurd (by simpa using hmark) hclean
      | marked hk hmark =>
        refine asked_follow ?_ ?_ ?_ ?_ ?_ _
        · exact hc.of_eq rfl rfl rfl fun _ h => h
        · exact hd
        · exact hmark
        · exact hg
        · exact hnow
      | armed t ht hk =>
        refine Asked.follow ?_ ?_ _
        · exact .inl ⟨t, ht, hk⟩
        · exact hc.of_eq rfl rfl rfl fun _ h => h
      | waiting hwait =>
        refine Asked.follow ?_ ?_ _
        · exact .inr hwait
        · exact hc.of_eq rfl rfl rfl fun _ h => h
  · split
    · refine ho.mono (fun h => ?_) (fun h => ?_) (fun h => h) (fun _ ht => ht) (fun h => h)
      · exact List.mem_insert_of_mem (by simp [h, hne])
      · simp [start, h, hne]
    · refine Owed.follow ?_ ?_ hne _
      · refine ho.mono (fun h => ?_) (fun h => h) (fun h => h) (fun _ ht => ht) (fun h => h)
        simp [h, hne]
      · exact hc.of_eq rfl rfl rfl fun _ h => h

/-- A happening that starts no pass of the blueprint keeps the debt. -/
theorem Owed.step (ho : c.Owed key) (hc : c.Timekept) (hd : (c.debounce.debouncer key).Sound)
    (hg : (c.debounce.debouncer key).gate ≠ .closed) (hnow : c.now.nanos < Moment.horizon)
    {h : Happening} (hs : (c.step h).started ≠ some key) : (c.step h).controller.Owed key := by
  have hr := reacts_step c h
  generalize c.step h = r at hs hr ⊢
  cases hr with
  | idle => exact ho
  | sent t =>
    exact ho.mono (fun h => h) (fun h => h) (fun h => h) (fun _ ht => ht)
      (fun hq => List.mem_append_left _ hq)
  | elapsed hle => exact ho.of_eq rfl rfl rfl rfl rfl
  | fired ht hreached =>
    cases ho with
    | dirty hmark hk => exact .dirty hmark hk
    | marked hk hmark => exact .marked hk hmark
    | armed u hu hk => exact (Asked.fire (.inl ⟨u, hu, hk⟩) hc ht).owed
    | waiting hwait => exact (Asked.fire (.inr hwait) hc ht).owed
  | handled hq => exact ho.handle hc hq hd hg hnow hs
  | ended hw report => exact ho.finish hc hd hg hnow hs
  | broke hw => exact ho.of_eq rfl rfl rfl rfl rfl

theorem Owed.run {hs : List Happening} (ho : c.Owed key) (hc : c.Timekept)
    (hd : (c.debounce.debouncer key).Sound) (hn : key ∉ (c.run hs).2)
    (hnow : (c.run hs).1.now.nanos < Moment.horizon)
    (hg : ((c.run hs).1.debounce.debouncer key).gate ≠ .closed) : (c.run hs).1.Owed key := by
  induction hs generalizing c with
  | nil => exact ho
  | cons h rest ih =>
    rw [run_cons, List.mem_append, not_or] at hn
    have hstep : (c.step h).controller.Owed key := by
      refine ho.step hc hd (fun hclosed => hg (closed_run hclosed (h :: rest))) ?_ ?_
      · exact Nat.lt_of_le_of_lt (now_le_run c (h :: rest)) hnow
      · intro hstarted
        exact hn.1 (by simp [hstarted])
    exact ih hstep (hc.step h) (sound_run hd [h]) hn.2 hnow hg

end Passing

/-- **No notification is lost.** From the moment at which a notification is handled there is a debt,
as long as no pass of the blueprint has been started since. The window of the blueprint has to end
at a moment of the clock; a gate behind a window without end stays closed, so it is enough to look
at the end of the run. -/
theorem owed_of_notified (window : Span) (backoff : Backoff) (before after : List Happening)
    (key : String)
    (hnotified : ((initial window backoff).run before).1.queue.head? = some (.notify key))
    (hstarted : key ∉ (((initial window backoff).run before).1.run (.handled :: after)).2)
    (hclock : ((initial window backoff).run (before ++ .handled :: after)).1.now.nanos
      < Moment.horizon)
    (hwindow : (((initial window backoff).run (before ++ .handled :: after)).1.debounce.debouncer
      key).gate ≠ .closed) :
    ((initial window backoff).run (before ++ .handled :: after)).1.Owed key := by
  rw [run_append] at hclock hwindow ⊢
  have hkept := (timekept_initial window backoff).run before
  have hsound : (((initial window backoff).run before).1.debounce.debouncer key).Sound := by
    refine sound_run ?_ before
    exact Debouncer.sound_initial
  revert hnotified hstarted hclock hwindow hkept hsound
  generalize ((initial window backoff).run before).1 = c
  intro hnotified hstarted hclock hwindow hkept hsound
  obtain ⟨rest, hq⟩ := List.head?_eq_some_iff.mp hnotified
  have hnow := Nat.lt_of_le_of_lt (now_le_run c (.handled :: after)) hclock
  have hg : (c.debounce.debouncer key).gate ≠ .closed := fun hclosed =>
    hwindow (closed_run hclosed _)
  rw [run_cons, List.mem_append, not_or] at hstarted
  have howed : (c.step .handled).controller.Owed key := by
    have hs : (c.step .handled).started ≠ some key := fun h => hstarted.1 (by simp [h])
    simp only [Controller.step, hq] at hs ⊢
    refine owed_handle_notify ?_ ?_ ?_ ?_ hs
    · exact hkept.of_eq rfl rfl rfl fun k h => by simpa [hq] using h
    · exact hsound
    · exact hg
    · exact hnow
  exact howed.run (hkept.step _) (sound_run hsound [.handled]) hstarted.2 hclock hwindow

/-- A notification that comes within the window and during a pass is owed after this pass. -/
theorem owed_after_burst :
    ((initial (.ofSeconds 10) .standard).run
      ([.sent (.notify "a"), .handled, .sent (.notify "a")] ++
        .handled :: [.ended "a" ⟨"a", some .completed, none, .rest⟩])).1.Owed "a" :=
  owed_of_notified (.ofSeconds 10) .standard _ _ "a" (by decide) (by decide) (by decide)
    (by decide)

end BlueprintControl.Controller
