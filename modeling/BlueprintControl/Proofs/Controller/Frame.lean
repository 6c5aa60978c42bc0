import BlueprintControl.Controller.Run

/-!
# What the operations of the controller leave alone

The books of the passes (`working`, `inFlight`, `dirty`) are kept by `request`, `start` and
`finish`; the timers (`timers`, `issued`, `scheduled`) by `schedule`. Here stands what each
operation does not touch, so that no invariant has to look into an operation that is none of its
business. And here stands, once and for all invariants, what a happening can do.

## Main definitions

* `Controller.Reacts`: what a happening comes to.
-/
namespace BlueprintControl.Controller

/-- What a happening comes to. What cannot happen does nothing. -/
inductive Reacts (c : Controller) : Happening → Reaction → Prop where
  | idle (h : Happening) : Reacts c h ⟨c, none⟩
  | sent (t : Trigger) : Reacts c (.sent t) ⟨c.send t, none⟩
  | elapsed {now : Moment} (hle : c.now.nanos ≤ now.nanos) :
      Reacts c (.elapsed now) ⟨{ c with now := now }, none⟩
  | fired {t : Timer} (ht : t ∈ c.timers) (hd : c.now.reached t.deadline = true) :
      Reacts c (.fired t.number) ⟨c.fire t, none⟩
  | handled {t : Trigger} {rest : List Trigger} (hq : c.queue = t :: rest) :
      Reacts c .handled ({ c with queue := rest }.handle t)
  | ended {key : String} (hw : key ∈ c.working) (report : Report) :
      Reacts c (.ended key report) (c.finish key report)
  | broke {key : String} (hw : key ∈ c.working) : Reacts c (.broke key) ⟨c.lose key, none⟩

theorem reacts_step (c : Controller) (h : Happening) : c.Reacts h (c.step h) := by
  cases h with
  | sent t => exact .sent t
  | elapsed now =>
    simp only [step]
    split
    case isTrue hle => exact .elapsed hle
    case isFalse => exact .idle _
  | fired number =>
    simp only [step]
    split
    case h_1 t ht =>
      obtain ⟨hn, hd⟩ : t.number = number ∧ c.now.reached t.deadline = true := by
        simpa using List.find?_some ht
      exact hn ▸ .fired (List.mem_of_find?_eq_some ht) hd
    case h_2 => exact .idle _
  | handled =>
    simp only [step]
    split
    case h_1 t rest hq => exact .handled hq
    case h_2 => exact .idle _
  | ended key report =>
    simp only [step]
    split
    case isTrue hw => exact .ended (by simpa using hw) report
    case isFalse => exact .idle _
  | broke key =>
    simp only [step]
    split
    case isTrue hw => exact .broke (by simpa using hw)
    case isFalse => exact .idle _

variable (c : Controller) (key : String)

@[simp] theorem schedule_frame (delay : Span) :
    (c.schedule key delay).now = c.now ∧ (c.schedule key delay).queue = c.queue ∧
    (c.schedule key delay).working = c.working ∧ (c.schedule key delay).inFlight = c.inFlight ∧
    (c.schedule key delay).dirty = c.dirty ∧ (c.schedule key delay).debounce = c.debounce ∧
    (c.schedule key delay).backoff = c.backoff ∧ (c.schedule key delay).summary = c.summary := by
  unfold schedule
  split
  · simp
  · split
    · split <;> simp [arm, disarm]
    · simp [arm]

@[simp] theorem collect_frame :
    (c.collect key).2 = { c with debounce := (c.debounce.collect key c.now).2 } := rfl

@[simp] theorem follow_frame (delay : Option Span) :
    (c.follow key delay).now = c.now ∧ (c.follow key delay).queue = c.queue ∧
    (c.follow key delay).working = c.working ∧ (c.follow key delay).inFlight = c.inFlight ∧
    (c.follow key delay).dirty = c.dirty ∧ (c.follow key delay).backoff = c.backoff ∧
    (c.follow key delay).summary = c.summary := by
  simp only [follow]
  split <;> simp

/-- Without a pass in flight, a refused notification comes to what the end of a pass comes to that
asks for nothing more. -/
theorem refuse_eq : c.refuse key =
    if c.inFlight.contains key then { c with summary := c.summary.refused }
    else { c with summary := c.summary.refused }.follow key none := by
  simp only [refuse, follow, shorter]
  split
  · rfl
  · cases ({ c with summary := c.summary.refused }.collect key).1.1 <;> rfl

@[simp] theorem refuse_frame :
    (c.refuse key).now = c.now ∧ (c.refuse key).queue = c.queue ∧
    (c.refuse key).working = c.working ∧ (c.refuse key).inFlight = c.inFlight ∧
    (c.refuse key).dirty = c.dirty ∧ (c.refuse key).backoff = c.backoff := by
  rw [refuse_eq]
  split <;> simp

end BlueprintControl.Controller
