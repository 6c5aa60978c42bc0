import BlueprintControl.Proofs.Scheduling.Debounce

/-!
# A debouncer and the calls that were made of it

A debouncer keeps no more than a gate and a mark. Both say something about all the calls that were
made of it: the gate is that of the last admission since the last reset, and the mark tells whether
a notification was refused that nothing has settled since. So every answer is a matter of the calls
before it.

## Main definitions

* `Use`, `Call`: what can be done with a debouncer, and what came of it and when.
* `Watch`: a debouncer on a clock, with its calls.
* `lastAdmission?`, `Owed`: what the calls say of the gate and of the mark.
* `Call.Lawful`: the answer of a call, told by the calls before it.

## Main statements

* `lawful_run`: every answer in every history is lawful.
* `admitted_iff_over`: what is admitted, and how far apart admissions are.
* `due_iff_owed`: when a pass is due, and how long it has to wait.
-/
namespace BlueprintControl.Debouncer

/-- What can be done with a debouncer, or happens around it. -/
inductive Use where
  | offer (window : Span)
  | collect
  | reset
  /-- The clock goes on. -/
  | wait (nanos : Nat)

/-- A call of a debouncer, with its moment and its answer. -/
inductive Call where
  | offered (now : Moment) (window : Span) (admitted : Bool)
  | collected (now : Moment) (due : Bool) (delay : Span)
  | reset

/-- An admitted notification: when it came, and the window it opened. -/
structure Admission where
  now : Moment
  window : Span

namespace Admission

/-- The end of the window, unless it lies beyond the horizon. -/
def end? (a : Admission) : Option Moment := a.now.add? a.window

/-- The window has an end, and this end is reached. -/
def Over (a : Admission) (now : Moment) : Prop := ∃ m, a.end? = some m ∧ m.nanos ≤ now.nanos

theorem Over.mono {a : Admission} {now later : Moment} (h : a.Over now)
    (hle : now.nanos ≤ later.nanos) : a.Over later := by
  obtain ⟨m, hm, hreached⟩ := h
  exact ⟨m, hm, Nat.le_trans hreached hle⟩

theorem Over.now_le {a : Admission} {now : Moment} (h : a.Over now) :
    a.now.nanos ≤ now.nanos := by
  obtain ⟨m, hm, hreached⟩ := h
  have hend := Moment.nanos_of_add?_eq_some hm
  omega

/-- The gate behind the admission. -/
def gate (a : Admission) : Gate := .behind a.now a.window

theorem gate_of_end {a : Admission} {m : Moment} (h : a.end? = some m) :
    a.gate = .closedUntil m := by
  unfold end? at h
  simp [gate, Gate.behind, h]

theorem gate_of_endless {a : Admission} (h : a.end? = none) : a.gate = .closed := by
  unfold end? at h
  simp [gate, Gate.behind, h]

theorem isOpen_gate (a : Admission) (now : Moment) : a.gate.isOpen now = true ↔ a.Over now := by
  cases h : a.end? with
  | none => simp [gate_of_endless h, Gate.isOpen, Over, h]
  | some m => simp [gate_of_end h, Gate.isOpen, Over, h]

end Admission

namespace Call

/-- The admission that a call is, if it is one. -/
def admission? : Call → Option Admission
  | .offered now window true => some ⟨now, window⟩
  | _ => none

theorem eq_of_admission? {c : Call} {a : Admission} (h : c.admission? = some a) :
    c = .offered a.now a.window true := by
  cases c with
  | offered now window admitted => cases admitted <;> cases h; rfl
  | collected now due delay => cases h
  | reset => cases h

def isReset : Call → Bool
  | .reset => true
  | _ => false

/-- A notification was refused. -/
def isRefusal : Call → Bool
  | .offered _ _ false => true
  | _ => false

/-- A pass was due. -/
def isDue : Call → Bool
  | .collected _ true _ => true
  | _ => false

/-- After the call nothing is owed for what was refused before. -/
def settles (c : Call) : Bool := c.admission?.isSome || c.isReset || c.isDue

end Call

/-! ## What the calls say, newest first -/

/-- The last admission since the last reset. -/
def lastAdmission? (calls : List Call) : Option Admission :=
  (calls.takeWhile fun c => !c.isReset).findSome? Call.admission?

/-- A notification was refused after the last call that settles. -/
def Owed (calls : List Call) : Prop :=
  ∃ c ∈ calls.takeWhile fun c => !c.settles, c.isRefusal = true

/-- The answer of a call is the one that the calls before it tell. -/
def Call.Lawful (before : List Call) : Call → Prop
  | .offered now _ admitted =>
    admitted = true ↔ ∀ last, lastAdmission? before = some last → last.Over now
  | .collected now due delay =>
    (due = true ↔ Owed before) ∧
    (due = false → delay = .zero) ∧
    (due = true → ∃ last, lastAdmission? before = some last ∧
      (∀ m, last.end? = some m → delay.nanos = m.nanos - now.nanos) ∧
      (last.end? = none → delay = .longest))
  | .reset => True

section Calls

variable {calls : List Call} {now : Moment} {window delay : Span}

@[simp] theorem lastAdmission?_admitted :
    lastAdmission? (.offered now window true :: calls) = some ⟨now, window⟩ := rfl

/-- Calls that neither admit nor reset leave the last admission the last one. -/
theorem lastAdmission?_cons {c : Call} (ha : c.admission? = none) (hr : c.isReset = false) :
    lastAdmission? (c :: calls) = lastAdmission? calls := by
  simp [lastAdmission?, hr, ha]

/-- As long as nothing is reset, an admission has a last one. -/
theorem exists_lastAdmission? {between : List Call} (hr : ∀ c ∈ between, c.isReset = false) :
    ∃ last, lastAdmission? (between ++ .offered now window true :: calls) = some last := by
  induction between with
  | nil => exact ⟨_, lastAdmission?_admitted⟩
  | cons c rest ih =>
    obtain ⟨hc, hrest⟩ := List.forall_mem_cons.mp hr
    cases ha : c.admission? with
    | none =>
      rw [List.cons_append, lastAdmission?_cons ha hc]
      exact ih hrest
    | some a => exact ⟨a, by simp [lastAdmission?, hc, ha]⟩

theorem settles_of_isRefusal {c : Call} (h : c.isRefusal = true) : c.settles = false := by
  cases c with
  | offered now window admitted => cases admitted <;> trivial
  | collected now due delay => cases h
  | reset => cases h

@[simp] theorem not_owed_nil : ¬ Owed [] := by simp [Owed]

/-- A refusal is owed, and so is what was owed before a call that does not settle. -/
theorem owed_cons_iff {c : Call} :
    Owed (c :: calls) ↔ c.isRefusal = true ∨ c.settles = false ∧ Owed calls := by
  cases hs : c.settles with
  | true =>
    have hr : c.isRefusal = false := by
      cases hr : c.isRefusal with
      | true => exact absurd (settles_of_isRefusal hr) (by simp [hs])
      | false => rfl
    simp [Owed, hs, hr]
  | false => simp [Owed, hs]

/-- What is refused stays owed as long as nothing settles it. -/
theorem owed_append {newer : List Call} (hs : ∀ c ∈ newer, c.settles = false)
    (ho : Owed calls) : Owed (newer ++ calls) := by
  induction newer with
  | nil => exact ho
  | cons c rest ih =>
    obtain ⟨hc, hrest⟩ := List.forall_mem_cons.mp hs
    exact owed_cons_iff.mpr (.inr ⟨hc, ih hrest⟩)

/-- Behind a call that settles, only what is refused afterwards can be owed. -/
theorem exists_refusal_of_owed {newer : List Call} {c : Call} (hs : c.settles = true)
    (ho : Owed (newer ++ c :: calls)) : ∃ d ∈ newer, d.isRefusal = true := by
  induction newer with
  | nil =>
    rcases owed_cons_iff.mp ho with hr | ⟨hn, -⟩
    · simp [settles_of_isRefusal hr] at hs
    · simp [hn] at hs
  | cons d rest ih =>
    rcases owed_cons_iff.mp ho with hr | ⟨-, ho⟩
    · exact ⟨d, List.mem_cons_self, hr⟩
    · obtain ⟨e, he, hr⟩ := ih ho
      exact ⟨e, List.mem_cons_of_mem _ he, hr⟩

end Calls

/-! ## A debouncer that is watched -/

/-- A debouncer on a clock, with the calls that were made of it, newest first. -/
structure Watch where
  now : Moment
  debouncer : Debouncer
  calls : List Call

namespace Watch

/-- A debouncer that has just been made. -/
def new (now : Moment) : Watch := ⟨now, .initial, []⟩

/-- Uses the debouncer, and writes down what it answers. -/
def use (w : Watch) : Use → Watch
  | .offer window =>
    let (admitted, d) := w.debouncer.offer w.now window
    ⟨w.now, d, .offered w.now window admitted :: w.calls⟩
  | .collect =>
    let ((due, delay), d) := w.debouncer.collect w.now
    ⟨w.now, d, .collected w.now due delay :: w.calls⟩
  | .reset => ⟨w.now, .initial, .reset :: w.calls⟩
  | .wait nanos => ⟨⟨w.now.nanos + nanos⟩, w.debouncer, w.calls⟩

/-- Uses the debouncer many times. -/
def run (w : Watch) (uses : List Use) : Watch := uses.foldl use w

/-- The debouncer holds what its calls say. A notification is refused behind an admission only, so
an open gate is never found with a mark. -/
structure Agrees (w : Watch) : Prop where
  gate : w.debouncer.gate = ((lastAdmission? w.calls).map Admission.gate).getD .opened
  pending_iff : w.debouncer.pending = true ↔ Owed w.calls
  exists_of_owed : Owed w.calls → ∃ last, lastAdmission? w.calls = some last

theorem agrees_new (now : Moment) : (new now).Agrees where
  gate := rfl
  pending_iff := by simp [new, initial]
  exists_of_owed := by simp [new]

variable {w : Watch}

/-- The gate is open unless the window of the last admission lasts. -/
theorem Agrees.isOpen_iff (hw : w.Agrees) : w.debouncer.gate.isOpen w.now = true ↔
    ∀ last, lastAdmission? w.calls = some last → last.Over w.now := by
  rw [hw.gate]
  cases lastAdmission? w.calls with
  | none => simp [Gate.isOpen]
  | some a => simpa using a.isOpen_gate w.now

/-- Using the debouncer keeps it in agreement with its calls. -/
theorem Agrees.use (hw : w.Agrees) (u : Use) : (w.use u).Agrees := by
  cases u with
  | offer window =>
    simp only [Watch.use, Debouncer.offer]
    split
    case isTrue =>
      have hsettled : ¬ Owed (.offered w.now window true :: w.calls) := by
        simp [owed_cons_iff, Call.isRefusal, Call.settles, Call.admission?]
      exact ⟨rfl, by simp [hsettled], fun ho => absurd ho hsettled⟩
    case isFalse hclosed =>
      have howed : Owed (.offered w.now window false :: w.calls) :=
        owed_cons_iff.mpr (.inl rfl)
      refine ⟨hw.gate, by simp [howed], fun _ => ?_⟩
      rw [lastAdmission?_cons rfl rfl]
      cases hlast : lastAdmission? w.calls with
      | none => exact absurd (hw.isOpen_iff.mpr (by simp [hlast])) hclosed
      | some a => exact ⟨a, rfl⟩
  | collect =>
    simp only [Watch.use, Debouncer.collect]
    split
    case isTrue =>
      have hsettled : ∀ delay, ¬ Owed (.collected w.now true delay :: w.calls) := by
        simp [owed_cons_iff, Call.isRefusal, Call.settles, Call.isDue]
      exact ⟨hw.gate, by simp [hsettled], fun ho => absurd ho (hsettled _)⟩
    case isFalse =>
      have hsame : Owed (.collected w.now false .zero :: w.calls) ↔ Owed w.calls := by
        simp [owed_cons_iff, Call.isRefusal, Call.settles, Call.isDue, Call.isReset,
          Call.admission?]
      exact ⟨hw.gate, hw.pending_iff.trans hsame.symm, fun ho => hw.exists_of_owed (hsame.mp ho)⟩
  | reset =>
    have hsettled : ¬ Owed (.reset :: w.calls) := by
      simp [owed_cons_iff, Call.isRefusal, Call.settles, Call.isReset]
    exact ⟨rfl, by simp [Watch.use, initial, hsettled], fun ho => absurd ho hsettled⟩
  | wait nanos => exact ⟨hw.gate, hw.pending_iff, hw.exists_of_owed⟩

/-- A notification is admitted if the gate is open, which the calls tell. -/
theorem Agrees.offered (hw : w.Agrees) (window : Span) :
    (Call.offered w.now window (w.debouncer.offer w.now window).1).Lawful w.calls := by
  unfold Debouncer.offer
  split
  case isTrue hopen => simpa [Call.Lawful] using hw.isOpen_iff.mp hopen
  case isFalse hclosed => simpa [Call.Lawful] using mt hw.isOpen_iff.mpr hclosed

/-- A pass is due if the calls owe one, and it waits for the end of the last window. -/
theorem Agrees.collected (hw : w.Agrees) :
    (Call.collected w.now (w.debouncer.collect w.now).1.1 (w.debouncer.collect w.now).1.2).Lawful
      w.calls := by
  unfold Debouncer.collect
  split
  case isTrue hp =>
    have howed := hw.pending_iff.mp hp
    obtain ⟨last, hlast⟩ := hw.exists_of_owed howed
    refine ⟨by simp [howed], by simp, fun _ => ⟨last, hlast, ?_, ?_⟩⟩
    · intro m hm
      rw [hw.gate, hlast, Option.map_some, Option.getD_some, Admission.gate_of_end hm]
      exact Moment.nanos_timeTo (Moment.lt_horizon_of_add?_eq_some hm) w.now
    · intro hm
      rw [hw.gate, hlast, Option.map_some, Option.getD_some, Admission.gate_of_endless hm]
      rfl
  case isFalse hp =>
    have hnot : ¬ Owed w.calls := fun ho => hp (hw.pending_iff.mpr ho)
    exact ⟨by simp [hnot], fun _ => rfl, by simp⟩

end Watch

/-! ## Histories -/

/-- The answers of all calls are lawful. -/
def Lawful (calls : List Call) : Prop :=
  ∀ c before, c :: before <:+ calls → c.Lawful before

theorem lawful_cons_iff {c : Call} {calls : List Call} :
    Lawful (c :: calls) ↔ c.Lawful calls ∧ Lawful calls := by
  constructor
  · intro h
    refine ⟨h c calls List.suffix_rfl, fun d before hd => h d before ?_⟩
    exact hd.trans (List.suffix_cons c calls)
  · rintro ⟨hc, hrest⟩ d before hd
    rcases List.suffix_cons_iff.mp hd with heq | hd
    · cases heq
      exact hc
    · exact hrest d before hd

theorem lawful_use {w : Watch} (hw : w.Agrees) (h : Lawful w.calls) (u : Use) :
    Lawful (w.use u).calls := by
  cases u with
  | offer window => exact lawful_cons_iff.mpr ⟨hw.offered window, h⟩
  | collect => exact lawful_cons_iff.mpr ⟨hw.collected, h⟩
  | reset => exact lawful_cons_iff.mpr ⟨trivial, h⟩
  | wait nanos => exact h

theorem lawful_run {w : Watch} (hw : w.Agrees) (h : Lawful w.calls) (uses : List Use) :
    Lawful (w.run uses).calls := by
  induction uses generalizing w with
  | nil => exact h
  | cons u rest ih => exact ih (hw.use u) (lawful_use hw h u)

theorem lawful_history (start : Moment) (uses : List Use) :
    Lawful ((Watch.new start).run uses).calls := by
  refine lawful_run (Watch.agrees_new start) ?_ uses
  intro c before hc
  simp [Watch.new] at hc

/-- If the window of the last admission is over, then so is that of every admission before it, as
far back as nothing was reset. -/
theorem Lawful.over_of_last {between before : List Call} {a last : Admission} {now : Moment}
    (h : Lawful (between ++ .offered a.now a.window true :: before))
    (hr : ∀ c ∈ between, c.isReset = false)
    (hlast : lastAdmission? (between ++ .offered a.now a.window true :: before) = some last)
    (hover : last.Over now) : a.Over now := by
  induction between generalizing last now with
  | nil =>
    rw [List.nil_append, lastAdmission?_admitted] at hlast
    cases hlast
    exact hover
  | cons c rest ih =>
    obtain ⟨hc, hrest⟩ := List.forall_mem_cons.mp hr
    obtain ⟨hlaw, hlawful⟩ := lawful_cons_iff.mp h
    cases hadmission : c.admission? with
    | none =>
      rw [List.cons_append, lastAdmission?_cons hadmission hc] at hlast
      exact ih hlawful hrest hlast hover
    | some b =>
      obtain rfl := Call.eq_of_admission? hadmission
      rw [List.cons_append, lastAdmission?_admitted] at hlast
      cases hlast
      -- The window of this admission is opened after those before it are over.
      obtain ⟨earlier, hearlier⟩ : ∃ earlier,
          lastAdmission? (rest ++ .offered a.now a.window true :: before) = some earlier :=
        exists_lastAdmission? hrest
      refine (ih hlawful hrest hearlier (hlaw.mp rfl earlier hearlier)).mono ?_
      exact hover.now_le

/-- **What a debouncer admits.** In every history a notification is admitted if nothing was
admitted since the last reset, or else if the window of the last admission has an end and this end
is reached. So the window of an admission passes before anything else is admitted, and behind a
window without an end nothing is, unless the debouncer is reset. -/
theorem admitted_iff_over (start : Moment) (uses : List Use) :
    let calls := ((Watch.new start).run uses).calls
    (∀ now window admitted before, .offered now window admitted :: before <:+ calls →
      (admitted = true ↔ lastAdmission? before = none ∨
        ∃ last, lastAdmission? before = some last ∧ last.Over now)) ∧
    ∀ (a : Admission) now window between before,
      .offered now window true :: (between ++ .offered a.now a.window true :: before) <:+ calls →
      (∀ c ∈ between, c.isReset = false) → a.Over now := by
  intro calls
  have hlawful : Lawful calls := lawful_history start uses
  constructor
  · intro now window admitted before h
    have hlaw : admitted = true ↔ _ := hlawful _ before h
    rw [hlaw]
    cases lastAdmission? before <;> simp
  · intro a now window between before h hr
    obtain ⟨hlaw, hbefore⟩ := lawful_cons_iff.mp fun c older hc => hlawful c older (hc.trans h)
    obtain ⟨last, hlast⟩ := exists_lastAdmission? hr
    exact hbefore.over_of_last hr hlast (hlaw.mp rfl last hlast)

/-- A window of ten seconds is not over for a notification four seconds into it, and over when the
next notification is admitted at its end. -/
theorem over_at_end_of_window :
    let uses : List Use := [.offer (.ofSeconds 10), .wait (4 * nanosPerSecond), .offer .zero,
      .wait (6 * nanosPerSecond), .offer .zero]
    let first : Admission := ⟨.start, .ofSeconds 10⟩
    ((Watch.new .start).run uses).calls = [.offered ⟨10 * nanosPerSecond⟩ .zero true,
      .offered ⟨4 * nanosPerSecond⟩ .zero false, .offered .start (.ofSeconds 10) true] ∧
    ¬ first.Over ⟨4 * nanosPerSecond⟩ ∧ first.Over ⟨10 * nanosPerSecond⟩ := by
  intro uses first
  obtain ⟨hlaw, hapart⟩ := admitted_iff_over .start uses
  refine ⟨rfl, fun hover => ?_, ?_⟩
  · have hadmitted := hlaw ⟨4 * nanosPerSecond⟩ .zero false [.offered .start (.ofSeconds 10) true]
      ⟨[.offered ⟨10 * nanosPerSecond⟩ .zero true], rfl⟩
    exact Bool.false_ne_true (hadmitted.mpr (.inr ⟨first, rfl, hover⟩))
  · exact hapart first ⟨10 * nanosPerSecond⟩ .zero [.offered ⟨4 * nanosPerSecond⟩ .zero false] []
      ⟨[], rfl⟩ (by simp [Call.isReset])

/-- **When a pass is due.** In every history a collection finds a pass due if a notification was
refused after the last call that settles: an admission, a reset or a pass that was due. The pass
waits for the end of the window of the last admission, not at all if this end has passed, and as
long as can be said if there is none. So a pass is due once for all that was refused before it, and
what was refused is collected unless an admission or a reset comes first. -/
theorem due_iff_owed (start : Moment) (uses : List Use) :
    let calls := ((Watch.new start).run uses).calls
    (∀ now due delay before, .collected now due delay :: before <:+ calls →
      (due = true ↔ Owed before) ∧
      (due = false → delay = .zero) ∧
      (due = true → ∃ last, lastAdmission? before = some last ∧
        (∀ m, last.end? = some m → delay.nanos = m.nanos - now.nanos) ∧
        (last.end? = none → delay = .longest))) ∧
    (∀ now delay c between before, .collected now true delay :: (between ++ c :: before) <:+ calls →
      c.isDue = true → ∃ d ∈ between, d.isRefusal = true) ∧
    ∀ now due delay c between before,
      .collected now due delay :: (between ++ c :: before) <:+ calls →
      c.isRefusal = true → (∀ d ∈ between, d.admission? = none ∧ d.isReset = false) →
      due = true ∨ ∃ d ∈ between, d.isDue = true := by
  intro calls
  have hlawful : Lawful calls := lawful_history start uses
  refine ⟨fun now due delay before h => hlawful _ before h, ?_, ?_⟩
  · intro now delay c between before h hdue
    have howed : Owed (between ++ c :: before) := (hlawful _ _ h).1.mp rfl
    exact exists_refusal_of_owed (by simp [Call.settles, hdue]) howed
  · intro now due delay c between before h hrefused hkept
    cases hany : between.any Call.isDue with
    | true => exact .inr (by simpa using hany)
    | false =>
      refine .inl ((hlawful _ _ h).1.mpr (owed_append ?_ (owed_cons_iff.mpr (.inl hrefused))))
      intro d hd
      obtain ⟨ha, hr⟩ := hkept d hd
      have hdue : d.isDue = false := by simpa using List.any_eq_false.mp hany d hd
      simp [Call.settles, ha, hr, hdue]

/-- A notification that comes two seconds into a window of ten is collected a second later: the
pass waits for the seven seconds that are left. The next notification is collected once more, and
then nothing is owed. -/
theorem due_at_end_of_window :
    let uses : List Use := [.offer (.ofSeconds 10), .wait (2 * nanosPerSecond), .offer .zero,
      .wait nanosPerSecond, .collect, .offer .zero, .collect, .collect]
    let now : Moment := ⟨3 * nanosPerSecond⟩
    let due : Call := .collected now true (.ofSeconds 7)
    let refused : Call := .offered now .zero false
    let before : List Call :=
      [.offered ⟨2 * nanosPerSecond⟩ .zero false, .offered .start (.ofSeconds 10) true]
    ((Watch.new .start).run uses).calls
        = .collected now false .zero :: due :: refused :: due :: before ∧
      Owed before ∧ (∃ d ∈ [refused], d.isRefusal = true) ∧ ∃ d ∈ [due], d.isDue = true := by
  intro uses now due refused before
  obtain ⟨hlaw, hbetween, hcollected⟩ := due_iff_owed .start uses
  have hfirst : due :: before <:+ ((Watch.new .start).run uses).calls :=
    ⟨[.collected now false .zero, due, refused], rfl⟩
  refine ⟨rfl, (hlaw now true _ before hfirst).1.mp rfl, ?_, ?_⟩
  · exact hbetween now (.ofSeconds 7) due [refused] before ⟨[.collected now false .zero], rfl⟩ rfl
  · refine (hcollected now false .zero refused [due] (due :: before) ⟨[], rfl⟩ rfl ?_).resolve_left
      Bool.false_ne_true
    simp [due, Call.admission?, Call.isReset]

end BlueprintControl.Debouncer
