import BlueprintControl.Scheduling.Debounce

/-!
# What the debouncers of a registry hold

A registry is looked at through `DebounceRegistry.debouncer`: an operation on one key is the
operation on the debouncer of that key, and the other debouncers stay as they are.

## Main definitions

* `Debouncer.Sound`: a mark is left behind a window only, and no window ends past the horizon.

## Main statements

* `debouncer_offer`, `debouncer_collect`: what an operation does to every debouncer.
* `Debouncer.Sound.exists_deadline`: the end of the window of a marked debouncer can be waited for.
-/
namespace BlueprintControl

namespace DebounceRegistry

variable (r : DebounceRegistry) (key other : String) (now : Moment) (window : Span)

@[simp] theorem fst_offerWithin :
    (r.offerWithin key now window).1 = ((r.debouncer key).offer now window).1 := rfl

@[simp] theorem debouncer_offerWithin : (r.offerWithin key now window).2.debouncer other
    = if other = key then ((r.debouncer key).offer now window).2 else r.debouncer other := by
  simp only [offerWithin, debouncer, Keyed.find?_put]
  split <;> rfl

@[simp] theorem fst_offer : (r.offer key now).1 = ((r.debouncer key).offer now r.window).1 := rfl

@[simp] theorem debouncer_offer : (r.offer key now).2.debouncer other
    = if other = key then ((r.debouncer key).offer now r.window).2 else r.debouncer other :=
  r.debouncer_offerWithin key other now r.window

@[simp] theorem fst_collect : (r.collect key now).1 = ((r.debouncer key).collect now).1 := by
  unfold collect debouncer
  split
  case h_1 h => rw [h]; rfl
  case h_2 d h => rw [h]; rfl

@[simp] theorem debouncer_collect : (r.collect key now).2.debouncer other
    = if other = key then ((r.debouncer key).collect now).2 else r.debouncer other := by
  unfold collect debouncer
  split
  case h_1 h =>
    -- A key without a debouncer is left without one: there is no mark to take away.
    split
    · simp_all [Debouncer.collect, Debouncer.initial]
    · rfl
  case h_2 d h =>
    rw [Keyed.find?_put, h]
    split <;> rfl

@[simp] theorem debouncer_reset : (r.reset key).debouncer other
    = if other = key then .initial else r.debouncer other := by
  unfold reset debouncer
  split
  case h_1 h =>
    split
    · simp_all
    · rfl
  case h_2 d h =>
    rw [Keyed.find?_put]
    split <;> rfl

theorem window_collect : (r.collect key now).2.window = r.window := by
  unfold collect
  split <;> rfl

theorem window_reset : (r.reset key).window = r.window := by
  unfold reset
  split <;> rfl

end DebounceRegistry

/-- A gate that is open stays open. -/
theorem Gate.isOpen_mono {g : Gate} {now later : Moment} (h : g.isOpen now = true)
    (hle : now.nanos ≤ later.nanos) : g.isOpen later = true := by
  cases g with
  | opened => rfl
  | closedUntil m =>
    have hend := (Moment.reached_iff now m).mp h
    exact (Moment.reached_iff later m).mpr (Nat.le_trans hend hle)
  | closed => cases h

namespace Debouncer

/-- A mark is left behind a window only, and a window with an end ends before the horizon. -/
structure Sound (d : Debouncer) : Prop where
  not_opened : d.pending = true → d.gate ≠ .opened
  lt_horizon : ∀ m, d.gate = .closedUntil m → m.nanos < Moment.horizon

variable {d : Debouncer}

theorem sound_initial : initial.Sound where
  not_opened := by simp [initial]
  lt_horizon := by simp [initial]

theorem Sound.offer (hd : d.Sound) (now : Moment) (window : Span) :
    (d.offer now window).2.Sound := by
  unfold Debouncer.offer
  split
  case isTrue =>
    refine ⟨by simp, ?_⟩
    intro m hm
    unfold Gate.behind at hm
    split at hm
    case h_1 e he =>
      cases hm
      exact Moment.lt_horizon_of_add?_eq_some he
    case h_2 => cases hm
  case isFalse hg =>
    refine ⟨?_, hd.lt_horizon⟩
    intro _ (ho : d.gate = .opened)
    exact hg (by rw [ho]; rfl)

/-- A refused notification leaves a mark, and the gate as it is. -/
theorem offer_of_refused {now : Moment} {window : Span} (h : ¬ (d.offer now window).1 = true) :
    (d.offer now window).2 = ⟨d.gate, true⟩ := by
  unfold Debouncer.offer at h ⊢
  split
  case isTrue ho =>
    rw [if_pos ho] at h
    exact absurd rfl h
  case isFalse => rfl

/-- A mark that is taken away is gone, and the gate stays as it is. -/
theorem snd_collect (d : Debouncer) (now : Moment) : (d.collect now).2 = ⟨d.gate, false⟩ := by
  obtain ⟨gate, pending⟩ := d
  cases pending <;> rfl

theorem Sound.collect (hd : d.Sound) (now : Moment) : (d.collect now).2.Sound := by
  unfold Debouncer.collect
  split
  · exact ⟨by simp, hd.lt_horizon⟩
  · exact hd

/-- The end of a window can be waited for: the time left leads to a moment of the clock. -/
theorem Sound.exists_deadline (hd : d.Sound) (hp : d.pending = true) (hg : d.gate ≠ .closed)
    {now : Moment} (hnow : now.nanos < Moment.horizon) {delay : Span}
    (hdelay : delay.nanos ≤ (d.gate.remaining now).nanos) :
    ∃ deadline, now.add? delay = some deadline := by
  refine Moment.exists_add?_eq_some ?_
  cases h : d.gate with
  | opened => exact absurd h (hd.not_opened hp)
  | closed => exact absurd h hg
  | closedUntil m =>
    have hm := hd.lt_horizon m h
    rw [h, Gate.remaining, Moment.nanos_timeTo hm] at hdelay
    omega

/-- Once the time left is over the gate is open. Behind a window without end this time leads
nowhere. -/
theorem Sound.isOpen_of_remaining (hd : d.Sound) {now deadline : Moment}
    (h : now.add? (d.gate.remaining now) = some deadline) : d.gate.isOpen deadline = true := by
  have hdeadline := Moment.nanos_of_add?_eq_some h
  have hhorizon := Moment.lt_horizon_of_add?_eq_some h
  cases hg : d.gate with
  | opened => rfl
  | closedUntil m =>
    rw [hg, Gate.remaining, Moment.nanos_timeTo (hd.lt_horizon m hg)] at hdeadline
    exact (Moment.reached_iff _ _).mpr (by omega)
  | closed =>
    have hlongest : Moment.horizon ≤ Span.longest.nanos := by decide
    rw [hg, Gate.remaining] at hdeadline
    omega

end Debouncer
end BlueprintControl
