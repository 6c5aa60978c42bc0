import BlueprintControl.Proofs.Controller.Frame
import BlueprintControl.Proofs.Scheduling.Debounce

/-!
# What runs do to the clock and to the debouncers

The clock does not go back. The controller offers notifications to debouncers and collects their
marks, and does nothing else to them, so what these two operations keep is kept by every run.

## Main statements

* `now_le_run`: the clock does not go back.
* `debouncer_run`: what every offer and every collection keeps, every run keeps.
* `closed_run`, `sound_run`: two things that are kept.
-/
namespace BlueprintControl.Controller

theorem now_le_step (c : Controller) (h : Happening) :
    c.now.nanos ≤ (c.step h).controller.now.nanos := by
  have hs := reacts_step c h
  generalize c.step h = r at hs ⊢
  cases hs with
  | idle => exact Nat.le_refl _
  | sent t => exact Nat.le_refl _
  | elapsed hle => exact hle
  | fired ht hd => exact Nat.le_refl _
  | @handled t rest hq =>
    cases t <;> simp only [handle, request, start] <;> repeat' split
    all_goals simp
  | ended hw report =>
    simp only [finish, start]
    split <;> simp
  | broke hw => exact Nat.le_refl _

theorem now_le_run (c : Controller) (hs : List Happening) :
    c.now.nanos ≤ (c.run hs).1.now.nanos := by
  induction hs generalizing c with
  | nil => exact Nat.le_refl _
  | cons h rest ih => exact Nat.le_trans (now_le_step c h) (ih _)

section Debouncer

variable {P : Debouncer → Prop} {c : Controller} {key : String}

theorem debouncer_follow (hcollect : ∀ d now, P d → P (d.collect now).2)
    (hd : P (c.debounce.debouncer key)) (other : String) (delay : Option Span) :
    P ((c.follow other delay).debounce.debouncer key) := by
  have hc : P ((c.collect other).2.debounce.debouncer key) := by
    simp only [collect_frame, DebounceRegistry.debouncer_collect]
    split
    case isTrue h => exact hcollect _ _ (h ▸ hd)
    case isFalse => exact hd
  simp only [follow]
  split
  · simpa using hc
  · exact hc

theorem debouncer_refuse (hcollect : ∀ d now, P d → P (d.collect now).2)
    (hd : P (c.debounce.debouncer key)) (other : String) :
    P ((c.refuse other).debounce.debouncer key) := by
  rw [refuse_eq]
  split
  · exact hd
  · refine debouncer_follow hcollect ?_ other none
    exact hd

@[simp] theorem debounce_request (c : Controller) (key : String) :
    (c.request key).controller.debounce = c.debounce := by
  unfold request
  split <;> rfl

/-- What every offer and every collection keeps, every happening keeps. -/
theorem debouncer_step (hoffer : ∀ d now window, P d → P (d.offer now window).2)
    (hcollect : ∀ d now, P d → P (d.collect now).2) (hd : P (c.debounce.debouncer key))
    (h : Happening) : P ((c.step h).controller.debounce.debouncer key) := by
  have hs := reacts_step c h
  generalize c.step h = r at hs ⊢
  cases hs with
  | idle => exact hd
  | sent t => exact hd
  | elapsed hle => exact hd
  | fired ht hreached => exact hd
  | @handled t rest hq =>
    cases t with
    | notify other =>
      have ho : P ((c.debounce.offer other c.now).2.debouncer key) := by
        simp only [DebounceRegistry.debouncer_offer]
        split
        case isTrue h => exact hoffer _ _ _ (h ▸ hd)
        case isFalse => exact hd
      simp only [handle]
      split
      · simpa using ho
      · exact debouncer_refuse hcollect ho other
    | requeue other => simpa [handle] using hd
  | @ended other hw report =>
    simp only [finish]
    split
    · exact hd
    · refine debouncer_follow hcollect ?_ other _
      exact hd
  | broke hw => exact hd

theorem debouncer_run (hoffer : ∀ d now window, P d → P (d.offer now window).2)
    (hcollect : ∀ d now, P d → P (d.collect now).2) (hd : P (c.debounce.debouncer key))
    (hs : List Happening) : P ((c.run hs).1.debounce.debouncer key) := by
  induction hs generalizing c with
  | nil => exact hd
  | cons h rest ih => exact ih (debouncer_step hoffer hcollect hd h)

/-- A gate behind a window without end stays closed. -/
theorem closed_run (hd : (c.debounce.debouncer key).gate = .closed) (hs : List Happening) :
    ((c.run hs).1.debounce.debouncer key).gate = .closed := by
  refine debouncer_run (P := fun d => d.gate = .closed) ?_ ?_ hd hs
  · intro d now window h
    simp [Debouncer.offer, Gate.isOpen, h]
  · intro d now h
    unfold Debouncer.collect
    split <;> exact h

theorem sound_run (hd : (c.debounce.debouncer key).Sound) (hs : List Happening) :
    ((c.run hs).1.debounce.debouncer key).Sound :=
  debouncer_run (fun _ now window h => h.offer now window) (fun _ now h => h.collect now) hd hs

end Debouncer
end BlueprintControl.Controller
