import BlueprintControl.Proofs.Controller.Exclusion

/-!
# Passes that break off

A pass that breaks off is at work no longer, but its blueprint stays in flight. For the books such
a pass is one that goes on for ever: counted among the passes at work, it leaves them in agreement.
So a blueprint is in flight without a pass exactly if a pass of it has broken off, and then it
stays so: what is asked for it leaves a mark at most, which no end of a pass will ever take.

## Main definitions

* `Controller.losses`: the blueprints whose passes break off in a run.
* `Controller.Stuck`: a blueprint that is taken to have a pass, and has none.
* `Controller.Attended`: the books agree, with the passes that broke off counted as at work.

## Main statements

* `working_step`: the passes at work are those that have been started and are not over.
* `Attended.step`, `attended_run`: the books agree at every moment.
* `Stuck.run`: a blueprint that is stuck stays stuck.
* `stuck_iff_mem_losses`: the blueprints that are stuck, and what becomes of all others.
* `stuck_after_break`: one pass that breaks off is enough.
-/
namespace BlueprintControl.Controller

/-! ## Passes at work -/

/-- The passes that a happening leaves at work: a pass is over when it ends, and when it breaks
off. -/
def remaining (c : Controller) : Happening → List String
  | .ended key _ | .broke key => c.working.erase key
  | _ => c.working

section Working

variable {c : Controller} {key : String}

theorem working_request (c : Controller) (key : String) :
    (c.request key).controller.working = c.working ++ (c.request key).started.toList := by
  unfold request
  split
  · simp
  · rfl

theorem working_handle (c : Controller) (t : Trigger) :
    (c.handle t).controller.working = c.working ++ (c.handle t).started.toList := by
  cases t with
  | notify key =>
    simp only [handle]
    split
    · exact working_request _ key
    · simp
  | requeue key => exact working_request _ key

theorem working_finish (c : Controller) (key : String) (r : Report) :
    (c.finish key r).controller.working
      = c.working.erase key ++ (c.finish key r).started.toList := by
  simp only [finish]
  split
  · rfl
  · simp

/-- The passes at work come with starts, and go when they are over. -/
theorem working_step (c : Controller) (h : Happening) :
    (c.step h).controller.working = c.remaining h ++ (c.step h).started.toList := by
  cases h with
  | sent t => simp [step, send, remaining]
  | elapsed now =>
    simp only [step, remaining]
    split <;> simp
  | fired number =>
    simp only [step, remaining]
    split <;> simp [fire, send, disarm]
  | handled =>
    cases hq : c.queue with
    | nil => simp [step, hq, remaining]
    | cons t rest => simpa [step, hq, remaining] using working_handle { c with queue := rest } t
  | ended key r =>
    by_cases hw : key ∈ c.working
    · simpa [step, hw, remaining] using working_finish c key r
    · simp [step, hw, remaining, List.erase_of_not_mem hw]
  | broke key =>
    by_cases hw : key ∈ c.working
    · simp [step, hw, remaining, lose]
    · simp [step, hw, remaining, List.erase_of_not_mem hw]

theorem mem_of_mem_remaining {h : Happening} (hk : key ∈ c.remaining h) : key ∈ c.working := by
  cases h with
  | ended other r => exact List.mem_of_mem_erase hk
  | broke other => exact List.mem_of_mem_erase hk
  | _ => exact hk

/-- A pass stays at work until it is over. -/
theorem mem_working_step {h : Happening} (hk : key ∈ c.working) (he : ∀ r, h ≠ .ended key r)
    (hb : h ≠ .broke key) : key ∈ (c.step h).controller.working := by
  rw [working_step]
  apply List.mem_append_left
  cases h with
  | ended other r =>
    have hne : key ≠ other := fun heq => he r (by rw [heq])
    exact (List.mem_erase_of_ne hne).mpr hk
  | broke other =>
    have hne : key ≠ other := fun heq => hb (by rw [heq])
    exact (List.mem_erase_of_ne hne).mpr hk
  | _ => exact hk

theorem mem_working_run {hs : List Happening} (hk : key ∈ c.working)
    (he : ∀ r, .ended key r ∉ hs) (hb : .broke key ∉ hs) : key ∈ (c.run hs).1.working := by
  induction hs generalizing c with
  | nil => exact hk
  | cons h rest ih =>
    rw [List.mem_cons, not_or] at hb
    have hstep : key ∈ (c.step h).controller.working := by
      refine mem_working_step hk ?_ (Ne.symm hb.1)
      intro r heq
      exact he r (by simp [heq])
    exact ih hstep (fun r hr => he r (List.mem_cons_of_mem _ hr)) hb.2

end Working

/-! ## Passes that are lost -/

/-- The blueprint whose pass breaks off in a happening. -/
def lossOf (c : Controller) : Happening → List String
  | .broke key => if key ∈ c.working then [key] else []
  | _ => []

theorem lossOf_of_reported (c : Controller) {h : Happening} (hr : h.Reported) :
    c.lossOf h = [] := by
  cases h with
  | broke key => exact hr.elim
  | _ => rfl

/-- The blueprints whose passes break off in a run, in order. -/
def losses (c : Controller) : List Happening → List String
  | [] => []
  | h :: rest => c.lossOf h ++ (c.step h).controller.losses rest

/-- The controller with some passes counted as at work, besides those that are. -/
def counting (c : Controller) (lost : List String) : Controller :=
  { c with working := lost ++ c.working }

/-- The books agree if the passes that broke off are counted as at work. -/
def Attended (c : Controller) (lost : List String) : Prop := (c.counting lost).Exclusive

/-- It does not matter in which order passes are at work. -/
theorem Exclusive.of_perm {c d : Controller} (hc : c.Exclusive)
    (hw : d.working.Perm c.working) (hi : d.inFlight = c.inFlight) (hd : d.dirty = c.dirty) :
    d.Exclusive where
  nodup := hw.nodup_iff.mpr hc.nodup
  mem_inFlight_iff key := by rw [hi, hc.mem_inFlight_iff, hw.mem_iff]
  inFlight_of_dirty := by rw [hi, hd]; exact hc.inFlight_of_dirty

theorem attended_initial (window : Span) (backoff : Backoff) :
    (initial window backoff).Attended [] := exclusive_initial window backoff

namespace Attended

variable {c d : Controller} {lost : List String} {key : String}

theorem mem_inFlight_iff (hc : c.Attended lost) :
    key ∈ c.inFlight ↔ key ∈ lost ∨ key ∈ c.working :=
  (Exclusive.mem_inFlight_iff hc key).trans List.mem_append

/-- A pass that broke off is not at work, and no other pass of its blueprint is. -/
theorem not_mem_working (hc : c.Attended lost) (hk : key ∈ lost) : key ∉ c.working := by
  intro hw
  exact (List.nodup_append.mp (Exclusive.nodup hc)).2.2 key hk key hw rfl

theorem of_books (hc : c.Attended lost) (hw : d.working = c.working)
    (hi : d.inFlight = c.inFlight) (hd : d.dirty = c.dirty) : d.Attended lost :=
  Exclusive.of_books hc (congrArg (lost ++ ·) hw) hi hd

theorem request (hc : c.Attended lost) (key : String) :
    (c.request key).controller.Attended lost := by
  have hrequested : ((c.counting lost).request key).controller.Exclusive :=
    Exclusive.request hc key
  apply hrequested.of_books <;> by_cases hk : key ∈ c.inFlight <;>
    simp [Controller.request, counting, start, hk]

theorem handle (hc : c.Attended lost) (t : Trigger) :
    (c.handle t).controller.Attended lost := by
  cases t with
  | notify key =>
    simp only [Controller.handle]
    split
    · apply Attended.request
      exact hc.of_books rfl rfl rfl
    · exact hc.of_books (by simp) (by simp) (by simp)
  | requeue key =>
    apply Attended.request
    exact hc.of_books rfl rfl rfl

/-- The end of a pass at work leaves those alone that broke off. -/
theorem finish (hc : c.Attended lost) (hw : key ∈ c.working) (r : Report) :
    (c.finish key r).controller.Attended lost := by
  have hfinished : ((c.counting lost).finish key r).controller.Exclusive :=
    Exclusive.finish hc key r
  have hnot : key ∉ lost := fun hk => hc.not_mem_working hk hw
  have herase : (lost ++ c.working).erase key = lost ++ c.working.erase key :=
    List.erase_append_right _ hnot
  apply hfinished.of_books <;> by_cases hd : key ∈ c.dirty <;>
    simp [Controller.finish, counting, start, hd, herase]

/-- A pass that breaks off is counted from then on. -/
theorem lose (hc : c.Attended lost) (hw : key ∈ c.working) :
    (c.lose key).Attended (lost ++ [key]) := by
  refine Exclusive.of_perm hc ?_ rfl rfl
  change ((lost ++ [key]) ++ c.working.erase key).Perm (lost ++ c.working)
  rw [List.append_assoc]
  exact (List.perm_cons_erase hw).symm.append_left lost

theorem step_of_reported (hc : c.Attended lost) {h : Happening} (hr : h.Reported) :
    (c.step h).controller.Attended lost := by
  have hs := reacts_step c h
  generalize c.step h = r at hs ⊢
  cases hs with
  | idle => exact hc
  | sent t => exact hc.of_books rfl rfl rfl
  | elapsed hle => exact hc.of_books rfl rfl rfl
  | fired ht hd => exact hc.of_books rfl rfl rfl
  | handled hq =>
    apply Attended.handle
    exact hc.of_books rfl rfl rfl
  | ended hw report => exact hc.finish hw report
  | broke hw => exact hr.elim

/-- One happening keeps the books in agreement, if the pass that breaks off in it is counted. -/
theorem step (hc : c.Attended lost) (h : Happening) :
    (c.step h).controller.Attended (lost ++ c.lossOf h) := by
  by_cases hr : h.Reported
  · rw [lossOf_of_reported c hr, List.append_nil]
    exact hc.step_of_reported hr
  · cases h with
    | broke key =>
      by_cases hw : key ∈ c.working
      · simpa [Controller.step, lossOf, hw] using hc.lose hw
      · simpa [Controller.step, lossOf, hw] using hc
    | _ => exact absurd trivial hr

theorem run (hc : c.Attended lost) (hs : List Happening) :
    (c.run hs).1.Attended (lost ++ c.losses hs) := by
  induction hs generalizing c lost with
  | nil => simpa [losses] using hc
  | cons h rest ih =>
    have hrest := ih (hc.step h)
    rwa [List.append_assoc] at hrest

end Attended

theorem attended_run (window : Span) (backoff : Backoff) (hs : List Happening) :
    ((initial window backoff).run hs).1.Attended ((initial window backoff).losses hs) :=
  (attended_initial window backoff).run hs

/-! ## Blueprints that are stuck -/

/-- The blueprint is taken to have a pass, and has none. -/
structure Stuck (c : Controller) (key : String) : Prop where
  inFlight : key ∈ c.inFlight
  idle : key ∉ c.working

section Stuck

variable {c : Controller} {key : String}

theorem Attended.stuck_iff {lost : List String} (hc : c.Attended lost) :
    c.Stuck key ↔ key ∈ lost := by
  constructor
  · intro hs
    exact (hc.mem_inFlight_iff.mp hs.inFlight).resolve_right hs.idle
  · intro hk
    exact ⟨hc.mem_inFlight_iff.mpr (.inl hk), hc.not_mem_working hk⟩

/-- Nothing starts a pass of a blueprint that is stuck, and nothing gets it out. -/
theorem Stuck.step (hs : c.Stuck key) (h : Happening) :
    (c.step h).started ≠ some key ∧ (c.step h).controller.Stuck key := by
  by_cases he : ∃ r, h = .ended key r
  · obtain ⟨r, rfl⟩ := he
    have hnone : c.step (.ended key r) = ⟨c, none⟩ := by simp [Controller.step, hs.idle]
    rw [hnone]
    exact ⟨by simp, hs⟩
  · obtain ⟨hn, hk⟩ := step_of_inFlight hs.inFlight (h := h) fun r hr => he ⟨r, hr⟩
    refine ⟨hn, hk, ?_⟩
    intro hw
    rw [working_step, List.mem_append] at hw
    rcases hw with hw | hw
    · exact hs.idle (mem_of_mem_remaining hw)
    · exact hn (by simpa using hw)

theorem Stuck.run (hs : c.Stuck key) (later : List Happening) :
    key ∉ (c.run later).2 ∧ (c.run later).1.Stuck key := by
  induction later generalizing c with
  | nil => exact ⟨by simp, hs⟩
  | cons h rest ih =>
    obtain ⟨hn, hs⟩ := hs.step h
    obtain ⟨hnone, hs⟩ := ih hs
    refine ⟨?_, hs⟩
    rw [run_cons, List.mem_append]
    rintro (hin | hin)
    · exact hn (by simpa using hin)
    · exact hnone hin

/-- Where no pass is in flight, one is started. -/
theorem started_of_wants (hk : key ∉ c.inFlight) (hw : c.Wants key) :
    (c.step .handled).started = some key := by
  rcases hw with hq | ⟨hq, ha⟩
  · obtain ⟨rest, hq⟩ := List.head?_eq_some_iff.mp hq
    simp [Controller.step, hq, handle, request, hk, start]
  · obtain ⟨rest, hq⟩ := List.head?_eq_some_iff.mp hq
    simp only [Controller.step, hq, handle, if_pos ha]
    simp [request, hk, start]

/-- A mark is taken by the end of the pass at work, whenever it comes. -/
theorem started_of_dirty {hs : List Happening} (hw : key ∈ c.working) (hd : key ∈ c.dirty)
    (he : ∀ r, .ended key r ∉ hs) (hb : .broke key ∉ hs) (r : Report) :
    ((c.run hs).1.step (.ended key r)).started = some key := by
  have hworking := mem_working_run hw he hb
  have hdirty := run_of_dirty hd he
  simp [Controller.step, finish, start, hworking, hdirty]

end Stuck

/-- **Blueprints that are stuck.** A blueprint is in flight without a pass exactly if a pass of it
has broken off. It stays so whatever happens, and no pass of it is started any more. Of any other
blueprint the pass is at work while it is in flight, and what is asked for it is answered by a pass
at once, or by a pass that starts when the one at work ends, whenever this is. -/
theorem stuck_iff_mem_losses (window : Span) (backoff : Backoff) (hs : List Happening)
    (key : String) :
    let c := ((initial window backoff).run hs).1
    (c.Stuck key ↔ key ∈ (initial window backoff).losses hs) ∧
    (c.Stuck key → ∀ later, key ∉ (c.run later).2 ∧ (c.run later).1.Stuck key) ∧
    (¬ c.Stuck key → (key ∈ c.inFlight → key ∈ c.working) ∧
      (c.Wants key → (c.step .handled).started = some key ∨
        ∀ later : List Happening, (∀ r, .ended key r ∉ later) → .broke key ∉ later →
          ∀ r, (((c.step .handled).controller.run later).1.step (.ended key r)).started
            = some key)) := by
  intro c
  refine ⟨(attended_run window backoff hs).stuck_iff, fun hstuck => hstuck.run, ?_⟩
  intro hfree
  have hworking : key ∈ c.inFlight → key ∈ c.working := by
    intro hk
    by_contra hidle
    exact hfree ⟨hk, hidle⟩
  refine ⟨hworking, ?_⟩
  intro hwants
  by_cases hk : key ∈ c.inFlight
  · right
    intro later he hb r
    have hw : key ∈ (c.step .handled).controller.working :=
      mem_working_step (hworking hk) (by simp) (by simp)
    exact started_of_dirty hw (dirty_of_wants hk hwants) he hb r
  · left
    exact started_of_wants hk hwants

/-- The pass of one blueprint breaks off, and it is stuck. The other one is asked for again during
its pass, and has a further pass afterwards. -/
theorem stuck_beside_another :
    let hs : List Happening := [.sent (.notify "a"), .handled, .sent (.notify "b"), .handled,
      .broke "a", .sent (.requeue "b")]
    let c := ((initial .zero .standard).run hs).1
    (c.Stuck "a" ∧ "a" ∉ (c.run [.handled, .sent (.requeue "a"), .handled]).2) ∧
      ((c.step .handled).controller.step (.ended "b" ⟨"b", some .completed, none, .rest⟩)).started
        = some "b" := by
  intro hs c
  obtain ⟨hiff, hstuck, -⟩ := stuck_iff_mem_losses .zero .standard hs "a"
  have ha : c.Stuck "a" := hiff.mpr (by decide)
  obtain ⟨hiff, -, hfree⟩ := stuck_iff_mem_losses .zero .standard hs "b"
  have hb : ¬ c.Stuck "b" := fun h => absurd (hiff.mp h) (by decide)
  obtain ⟨-, hanswer⟩ := hfree hb
  refine ⟨⟨ha, (hstuck ha _).1⟩, ?_⟩
  obtain hs | hlater := hanswer (.inl rfl)
  · exact absurd hs (by decide)
  · exact hlater [] (by simp) (by simp) _

/-- After its pass has broken off, a blueprint is in flight without a pass. A notification that is
let through then starts nothing, and leaves a mark that nothing takes. -/
theorem stuck_after_break :
    let c := ((initial .zero .standard).run [.sent (.notify "a"), .handled, .broke "a",
      .sent (.notify "a")]).1
    ¬ (∀ key ∈ c.inFlight, key ∈ c.working) ∧ c.Wants "a" ∧ (c.step .handled).started = none ∧
      "a" ∈ (c.step .handled).controller.dirty := by
  intro c
  refine ⟨?_, .inr ⟨rfl, by decide⟩, rfl, by decide⟩
  intro h
  exact absurd (h "a" (by decide)) (by decide)

end BlueprintControl.Controller
