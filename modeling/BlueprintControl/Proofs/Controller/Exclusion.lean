import BlueprintControl.Proofs.Controller.Frame
import Mathlib.Data.List.Nodup

/-!
# No blueprint has two passes at once

The controller keeps three books: the passes at work, the blueprints taken to have a pass, and the
blueprints whose pass has to run again. `Exclusive` says how they agree. Every happening keeps it,
as long as no pass breaks off, so every run does.

## Main definitions

* `Happening.Reported`: the happening is not that of a pass that breaks off.
* `Controller.Exclusive`: one pass for each blueprint, and books that agree.
* `Controller.Wants`: the next trigger asks for a pass of a blueprint and is let through.

## Main statements

* `exclusive_run`: the books agree at every moment.
* `passes_exclusive`: whatever is asked for during a pass comes as one further pass, at its end.
-/
namespace BlueprintControl

/-- Passes that end do so with a report. -/
def Happening.Reported : Happening → Prop
  | .broke _ => False
  | _ => True

namespace Controller

/-- No blueprint has two passes, and the books agree with the passes. -/
structure Exclusive (c : Controller) : Prop where
  nodup : c.working.Nodup
  mem_inFlight_iff : ∀ key, key ∈ c.inFlight ↔ key ∈ c.working
  inFlight_of_dirty : ∀ key ∈ c.dirty, key ∈ c.inFlight

theorem exclusive_initial (window : Span) (backoff : Backoff) :
    (initial window backoff).Exclusive where
  nodup := List.nodup_nil
  mem_inFlight_iff := by simp [initial]
  inFlight_of_dirty := by simp [initial]

/-- `Exclusive` reads nothing but the three books. -/
theorem Exclusive.of_books {c d : Controller} (hc : c.Exclusive) (hw : d.working = c.working)
    (hi : d.inFlight = c.inFlight) (hd : d.dirty = c.dirty) : d.Exclusive where
  nodup := hw ▸ hc.nodup
  mem_inFlight_iff := by rw [hi, hw]; exact hc.mem_inFlight_iff
  inFlight_of_dirty := by rw [hi, hd]; exact hc.inFlight_of_dirty

theorem Exclusive.start {c : Controller} (hc : c.Exclusive) {key : String}
    (hk : key ∉ c.inFlight) : (c.start key).controller.Exclusive where
  nodup := by
    have hw : key ∉ c.working := fun h => hk ((hc.mem_inFlight_iff key).mpr h)
    refine List.nodup_append.mpr ⟨hc.nodup, List.nodup_singleton key, ?_⟩
    intro a ha b hb
    rw [List.mem_singleton] at hb
    rintro rfl
    exact hw (hb ▸ ha)
  mem_inFlight_iff other := by
    simp [Controller.start, hc.mem_inFlight_iff other, or_comm]
  inFlight_of_dirty other ho := by
    simp only [Controller.start, List.mem_insert_iff]
    exact .inr (hc.inFlight_of_dirty other ho)

theorem Exclusive.request {c : Controller} (hc : c.Exclusive) (key : String) :
    (c.request key).controller.Exclusive := by
  unfold Controller.request
  split
  case isTrue hk =>
    refine ⟨hc.nodup, hc.mem_inFlight_iff, ?_⟩
    intro other ho
    rcases List.mem_insert_iff.mp ho with rfl | ho
    · simpa using hk
    · exact hc.inFlight_of_dirty other ho
  case isFalse hk => exact hc.start (by simpa using hk)

theorem Exclusive.handle {c : Controller} (hc : c.Exclusive) (t : Trigger) :
    (c.handle t).controller.Exclusive := by
  cases t with
  | notify key =>
    simp only [Controller.handle]
    split
    · refine Exclusive.request ?_ key
      exact hc.of_books rfl rfl rfl
    · exact hc.of_books (by simp) (by simp) (by simp)
  | requeue key =>
    refine Exclusive.request ?_ key
    exact hc.of_books rfl rfl rfl

/-- What the end of a pass leaves, before the next pass is thought of. -/
theorem Exclusive.leave {c : Controller} (hc : c.Exclusive) (key : String) {d : Controller}
    (hw : d.working = c.working.erase key) (hi : d.inFlight = c.inFlight.filter (· != key))
    (hd : d.dirty = c.dirty.filter (· != key)) : d.Exclusive where
  nodup := hw ▸ hc.nodup.erase key
  mem_inFlight_iff other := by
    rw [hi, hw, List.mem_filter, hc.nodup.mem_erase_iff, hc.mem_inFlight_iff]
    simp [and_comm]
  inFlight_of_dirty other ho := by
    rw [hd, List.mem_filter] at ho
    rw [hi, List.mem_filter]
    exact ⟨hc.inFlight_of_dirty other ho.1, ho.2⟩

theorem Exclusive.finish {c : Controller} (hc : c.Exclusive) (key : String) (r : Report) :
    (c.finish key r).controller.Exclusive := by
  simp only [Controller.finish]
  split
  case isTrue => exact (hc.leave key rfl rfl rfl).start (by simp)
  case isFalse hd =>
    have hclean : c.dirty = c.dirty.filter (· != key) := by
      refine (List.filter_eq_self.mpr ?_).symm
      intro other ho
      have : other ≠ key := fun h => hd (by simpa [h] using ho)
      simpa using this
    exact hc.leave key (by simp) (by simp) (by simpa using hclean)

/-- One happening keeps the books in agreement. -/
theorem Exclusive.step {c : Controller} (hc : c.Exclusive) {h : Happening} (hr : h.Reported) :
    (c.step h).controller.Exclusive := by
  have hs := reacts_step c h
  generalize c.step h = r at hs ⊢
  cases hs with
  | idle => exact hc
  | sent t => exact hc.of_books rfl rfl rfl
  | elapsed hle => exact hc.of_books rfl rfl rfl
  | fired ht hd => exact hc.of_books rfl rfl rfl
  | handled hq =>
    refine Exclusive.handle ?_ _
    exact hc.of_books rfl rfl rfl
  | ended hw report => exact hc.finish _ report
  | broke hw => exact hr.elim

theorem exclusive_run {c : Controller} (hc : c.Exclusive) {hs : List Happening}
    (hr : ∀ h ∈ hs, h.Reported) : (c.run hs).1.Exclusive := by
  induction hs generalizing c with
  | nil => exact hc
  | cons h rest ih =>
    obtain ⟨hh, hrest⟩ := List.forall_mem_cons.mp hr
    exact ih (hc.step hh) hrest

/-! ## What is asked for during a pass -/

/-- The next trigger asks for a pass of a blueprint, and the debouncer does not hold it back. -/
def Wants (c : Controller) (key : String) : Prop :=
  c.queue.head? = some (.requeue key) ∨
    (c.queue.head? = some (.notify key) ∧ (c.debounce.offer key c.now).1 = true)

section Request

variable {c : Controller} {other : String}

theorem request_of_inFlight (ho : other ∈ c.inFlight) (key : String) :
    (c.request key).started ≠ some other ∧ other ∈ (c.request key).controller.inFlight := by
  unfold request
  split
  case isTrue => exact ⟨by simp, ho⟩
  case isFalse hk =>
    have hne : key ≠ other := fun h => hk (by simpa [h] using ho)
    exact ⟨by simpa [start] using hne, List.mem_insert_of_mem ho⟩

theorem request_of_dirty (ho : other ∈ c.dirty) (key : String) :
    other ∈ (c.request key).controller.dirty := by
  unfold request
  split
  · exact List.mem_insert_of_mem ho
  · exact ho

theorem dirty_request_self (ho : other ∈ c.inFlight) :
    other ∈ (c.request other).controller.dirty := by
  have hc : c.inFlight.contains other = true := by simpa using ho
  rw [request, if_pos hc]
  exact List.mem_insert_self

theorem handle_of_inFlight (ho : other ∈ c.inFlight) (t : Trigger) :
    (c.handle t).started ≠ some other ∧ other ∈ (c.handle t).controller.inFlight := by
  cases t with
  | notify key =>
    simp only [handle]
    split
    · refine request_of_inFlight ?_ key
      exact ho
    · exact ⟨by simp, by simpa using ho⟩
  | requeue key =>
    refine request_of_inFlight ?_ key
    exact ho

theorem handle_of_dirty (ho : other ∈ c.dirty) (t : Trigger) :
    other ∈ (c.handle t).controller.dirty := by
  cases t with
  | notify key =>
    simp only [handle]
    split
    · refine request_of_dirty ?_ key
      exact ho
    · simpa using ho
  | requeue key =>
    refine request_of_dirty ?_ key
    exact ho

end Request

section During

variable {c : Controller} {key : String}

/-- While a pass is in flight no other pass of the blueprint is started. -/
theorem step_of_inFlight (hk : key ∈ c.inFlight) {h : Happening} (he : ∀ r, h ≠ .ended key r) :
    (c.step h).started ≠ some key ∧ key ∈ (c.step h).controller.inFlight := by
  have hs := reacts_step c h
  generalize c.step h = r at hs ⊢
  cases hs with
  | idle => exact ⟨by simp, hk⟩
  | sent t => exact ⟨by simp, hk⟩
  | elapsed hle => exact ⟨by simp, hk⟩
  | fired ht hd => exact ⟨by simp, hk⟩
  | handled hq =>
    refine handle_of_inFlight ?_ _
    exact hk
  | @ended other hw report =>
    have hne : key ≠ other := fun h => he report (by rw [h])
    have hleft : key ∈ c.inFlight.filter (· != other) := by simp [hk, hne]
    simp only [finish]
    split
    · exact ⟨by simpa [start] using hne.symm, List.mem_insert_of_mem hleft⟩
    · exact ⟨by simp, by simpa using hleft⟩
  | broke hw => exact ⟨by simp, hk⟩

/-- A mark stays until the pass ends. -/
theorem step_of_dirty (hm : key ∈ c.dirty) {h : Happening} (he : ∀ r, h ≠ .ended key r) :
    key ∈ (c.step h).controller.dirty := by
  have hs := reacts_step c h
  generalize c.step h = r at hs ⊢
  cases hs with
  | idle => exact hm
  | sent t => exact hm
  | elapsed hle => exact hm
  | fired ht hd => exact hm
  | handled hq =>
    refine handle_of_dirty ?_ _
    exact hm
  | @ended other hw report =>
    have hne : key ≠ other := fun h => he report (by rw [h])
    simp only [finish]
    split
    · simp [start, hm, hne]
    · simpa using hm
  | broke hw => exact hm

/-- What is asked for while a pass is in flight leaves a mark. -/
theorem dirty_of_wants (hk : key ∈ c.inFlight) (hw : c.Wants key) :
    key ∈ (c.step .handled).controller.dirty := by
  rcases hw with hq | ⟨hq, ha⟩
  · obtain ⟨rest, hq⟩ := List.head?_eq_some_iff.mp hq
    simp only [step, hq, handle]
    exact dirty_request_self hk
  · obtain ⟨rest, hq⟩ := List.head?_eq_some_iff.mp hq
    simp only [step, hq, handle, ha, if_true]
    exact dirty_request_self hk

theorem run_of_inFlight {hs : List Happening} (hk : key ∈ c.inFlight)
    (he : ∀ r, .ended key r ∉ hs) :
    key ∉ (c.run hs).2 ∧ key ∈ (c.run hs).1.inFlight := by
  induction hs generalizing c with
  | nil => exact ⟨by simp, hk⟩
  | cons h rest ih =>
    obtain ⟨hs, hk⟩ := step_of_inFlight hk (h := h) (fun r heq => he r (by simp [heq]))
    obtain ⟨hn, hk⟩ := ih hk (fun r hr => he r (List.mem_cons_of_mem _ hr))
    refine ⟨?_, hk⟩
    rw [run_cons, List.mem_append]
    rintro (hin | hin)
    · exact hs (by simpa using hin)
    · exact hn hin

theorem run_of_dirty {hs : List Happening} (hd : key ∈ c.dirty) (he : ∀ r, .ended key r ∉ hs) :
    key ∈ (c.run hs).1.dirty := by
  induction hs generalizing c with
  | nil => exact hd
  | cons h rest ih =>
    have hd := step_of_dirty hd (h := h) (fun r heq => he r (by simp [heq]))
    exact ih hd (fun r hr => he r (List.mem_cons_of_mem _ hr))

/-- The end of a marked pass starts the next one, and takes the mark away. -/
theorem step_ended_of_dirty (hc : c.Exclusive) (hd : key ∈ c.dirty) (report : Report) :
    (c.step (.ended key report)).started = some key ∧
      key ∉ (c.step (.ended key report)).controller.dirty := by
  have hw : key ∈ c.working := (hc.mem_inFlight_iff key).mp (hc.inFlight_of_dirty key hd)
  simp [step, finish, start, hw, hd]

end During

/-- **Mutual exclusion of passes.** In every run whose passes end with a report the books agree at
every moment. What is asked for while a pass is in flight, once or more often, is answered by
exactly one further pass: none is started before, the end of the pass starts it, and then nothing
is owed any more. -/
theorem passes_exclusive (window : Span) (backoff : Backoff) (hs : List Happening)
    (hr : ∀ h ∈ hs, h.Reported) :
    let c := ((initial window backoff).run hs).1
    c.Exclusive ∧
      ∀ key ∈ c.inFlight, ∀ during : List Happening, (∀ h ∈ during, h.Reported) →
        (∀ r, .ended key r ∉ during) →
        key ∉ (c.run during).2 ∧
          ∀ before after, during = before ++ .handled :: after → (c.run before).1.Wants key →
            ∀ report, ((c.run during).1.step (.ended key report)).started = some key ∧
              key ∉ ((c.run during).1.step (.ended key report)).controller.dirty := by
  intro c
  have hc : c.Exclusive := exclusive_run (exclusive_initial window backoff) hr
  refine ⟨hc, ?_⟩
  intro key hk during hd he
  refine ⟨(run_of_inFlight hk he).1, ?_⟩
  rintro before after rfl hw report
  have hbefore : ∀ r, .ended key r ∉ before := fun r h => he r (List.mem_append_left _ h)
  have hafter : ∀ r, .ended key r ∉ after := fun r h =>
    he r (List.mem_append_right _ (List.mem_cons_of_mem _ h))
  have hmark : key ∈ ((c.run before).1.step .handled).controller.dirty :=
    dirty_of_wants (run_of_inFlight hk hbefore).2 hw
  refine step_ended_of_dirty (exclusive_run hc hd) ?_ report
  rw [run_append, run_cons]
  exact run_of_dirty hmark hafter

/-- Two requeues during a pass are answered by one pass at its end. -/
theorem further_pass_of_two_requeues :
    let c := ((initial (.ofSeconds 10) .standard).run [.sent (.notify "a"), .handled]).1
    let during : List Happening :=
      [.sent (.requeue "a"), .handled, .sent (.requeue "a"), .handled]
    let last := (c.run during).1.step (.ended "a" ⟨"a", some .completed, none, .rest⟩)
    "a" ∈ c.inFlight ∧ "a" ∉ (c.run during).2 ∧ last.started = some "a" ∧
      "a" ∉ last.controller.dirty := by
  intro c during last
  have hk : "a" ∈ c.inFlight := by decide
  have hw : (c.run [.sent (.requeue "a")]).1.Wants "a" := .inl rfl
  obtain ⟨-, h⟩ := passes_exclusive (.ofSeconds 10) .standard [.sent (.notify "a"), .handled]
    (by simp [Happening.Reported])
  obtain ⟨hn, h⟩ := h "a" hk during (by simp [during, Happening.Reported]) (by simp [during])
  exact ⟨hk, hn, h _ _ rfl hw _⟩

end Controller
end BlueprintControl
