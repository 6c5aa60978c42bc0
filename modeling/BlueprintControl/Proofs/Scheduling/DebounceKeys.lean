import BlueprintControl.Proofs.Keyed
import BlueprintControl.Proofs.Scheduling.History
import Mathlib.Data.Finset.Card

/-!
# The keys of a registry

A registry makes a debouncer for a key when the key is first offered something. What it answers for
this key is what a debouncer answers that is there from the start and hears of this key alone: until
the first offer there is no mark to collect, and nothing to put back.

## Main definitions

* `Use`, `Watch`: what can be done with a registry, and a registry on a clock with its calls.
* `Use.on`: what a use is to the debouncer of one key.
* `Follows`: a debouncer of its own follows the registry for one key.

## Main statements

* `Follows.use`, `Follows.run`: it does so after every use, and after every history.
* `Watch.keys_use`: only an offer makes a key, and no key is lost.
* `keys_independent`: the answers for each key, and the number of keys.
-/
namespace BlueprintControl.DebounceRegistry

/-- What can be done with a registry, or happens around it. -/
inductive Use where
  | offer (key : String)
  /-- Offers a notification with a window of its own. -/
  | offerWithin (key : String) (window : Span)
  | collect (key : String)
  | reset (key : String)
  /-- The clock goes on. -/
  | wait (nanos : Nat)

namespace Use

/-- The key that is offered a notification. -/
def offered? : Use → Option String
  | .offer key | .offerWithin key _ => some key
  | .collect _ | .reset _ | .wait _ => none

/-- What a use is to the debouncer of one key, in a registry with that window: everything that is
done with the key, and the clock. -/
def on (key : String) (window : Span) : Use → Option Debouncer.Use
  | .offer other => if other = key then some (.offer window) else none
  | .offerWithin other own => if other = key then some (.offer own) else none
  | .collect other => if other = key then some .collect else none
  | .reset other => if other = key then some .reset else none
  | .wait nanos => some (.wait nanos)

end Use

/-- A registry on a clock, with the calls that were made of it, newest first, each with its key. -/
structure Watch where
  now : Moment
  registry : DebounceRegistry
  calls : List (String × Debouncer.Call)

namespace Watch

/-- A registry that has just been made. -/
def new (now : Moment) (window : Span) : Watch := ⟨now, .make window, []⟩

/-- Uses the registry, and writes down what it answers. -/
def use (w : Watch) : Use → Watch
  | .offer key =>
    let (admitted, r) := w.registry.offer key w.now
    ⟨w.now, r, (key, .offered w.now w.registry.window admitted) :: w.calls⟩
  | .offerWithin key window =>
    let (admitted, r) := w.registry.offerWithin key w.now window
    ⟨w.now, r, (key, .offered w.now window admitted) :: w.calls⟩
  | .collect key =>
    let ((due, delay), r) := w.registry.collect key w.now
    ⟨w.now, r, (key, .collected w.now due delay) :: w.calls⟩
  | .reset key => ⟨w.now, w.registry.reset key, (key, .reset) :: w.calls⟩
  | .wait nanos => ⟨⟨w.now.nanos + nanos⟩, w.registry, w.calls⟩

/-- Uses the registry many times. -/
def run (w : Watch) (uses : List Use) : Watch := uses.foldl use w

/-- The calls of one key, newest first. -/
def callsOf (key : String) (w : Watch) : List Debouncer.Call :=
  (w.calls.filter fun c => c.1 == key).map Prod.snd

end Watch

variable {key : String} {window : Span} {w : Watch} {d : Debouncer.Watch}

/-! ## One debouncer for each key -/

/-- A debouncer of its own follows a registry with that window for one key: it is on the same clock,
in the state of the debouncer of the key, and has answered the same. -/
structure Follows (key : String) (window : Span) (w : Watch) (d : Debouncer.Watch) : Prop where
  now : d.now = w.now
  window : w.registry.window = window
  debouncer : d.debouncer = w.registry.debouncer key
  calls : d.calls = w.callsOf key

theorem follows_new (start : Moment) (window : Span) (key : String) :
    Follows key window (.new start window) (.new start) := ⟨rfl, rfl, rfl, rfl⟩

/-- What a call of some key does to the registry is told by what it does to the debouncer of this
key. The call is followed by a call of the debouncer of its own, if the key is the one. -/
theorem Follows.call (h : Follows key window w d) {other : String} {u : Debouncer.Use}
    {r : DebounceRegistry} {own : Debouncer} {c : Debouncer.Call}
    (hwindow : r.window = w.registry.window)
    (hr : ∀ k, r.debouncer k = if k = other then own else w.registry.debouncer k)
    (hu : d.debouncer = w.registry.debouncer other → d.use u = ⟨d.now, own, c :: d.calls⟩) :
    Follows key window ⟨w.now, r, (other, c) :: w.calls⟩
      ((if other = key then some u else none).toList.foldl Debouncer.Watch.use d) := by
  by_cases hkey : other = key
  · subst hkey
    have hown : r.debouncer other = own := (hr other).trans (if_pos rfl)
    rw [if_pos rfl, Option.toList_some, List.foldl_cons, List.foldl_nil, hu h.debouncer]
    exact ⟨h.now, hwindow.trans h.window, hown.symm, by simp [Watch.callsOf, h.calls]⟩
  · have hkept : r.debouncer key = w.registry.debouncer key :=
      (hr key).trans (if_neg (Ne.symm hkey))
    rw [if_neg hkey]
    exact ⟨h.now, hwindow.trans h.window, h.debouncer.trans hkept.symm,
      by simp [Watch.callsOf, hkey, h.calls]⟩

/-- Both use what the use is to the debouncer of the key. -/
theorem Follows.use (h : Follows key window w d) (u : Use) :
    Follows key window (w.use u) ((u.on key window).toList.foldl Debouncer.Watch.use d) := by
  obtain rfl := h.window
  cases u with
  | offer other =>
    let admitted := (w.registry.offer other w.now).1
    refine h.call (c := .offered w.now w.registry.window admitted) rfl
      (w.registry.debouncer_offer other · w.now) fun hd => ?_
    simp only [admitted, Debouncer.Watch.use, hd, h.now, fst_offer]
  | offerWithin other own =>
    let admitted := (w.registry.offerWithin other w.now own).1
    refine h.call (c := .offered w.now own admitted) rfl
      (w.registry.debouncer_offerWithin other · w.now own) fun hd => ?_
    simp only [admitted, Debouncer.Watch.use, hd, h.now, fst_offerWithin]
  | collect other =>
    let answer := (w.registry.collect other w.now).1
    refine h.call (c := .collected w.now answer.1 answer.2) (w.registry.window_collect other w.now)
      (w.registry.debouncer_collect other · w.now) fun hd => ?_
    simp only [answer, Debouncer.Watch.use, hd, h.now, fst_collect]
  | reset other =>
    exact h.call (w.registry.window_reset other) (w.registry.debouncer_reset other) fun _ => rfl
  | wait nanos =>
    have hlater : Moment.mk (d.now.nanos + nanos) = ⟨w.now.nanos + nanos⟩ := by rw [h.now]
    exact ⟨hlater, rfl, h.debouncer, h.calls⟩

theorem Follows.run (h : Follows key window w d) (uses : List Use) :
    Follows key window (w.run uses) (d.run (uses.filterMap (Use.on key window))) := by
  induction uses generalizing w d with
  | nil => exact h
  | cons u rest ih =>
    have hrest := ih (h.use u)
    rw [List.filterMap_cons]
    cases hu : u.on key window with
    | none =>
      rw [hu] at hrest
      exact hrest
    | some v =>
      rw [hu] at hrest
      exact hrest

/-! ## The keys -/

namespace Watch

/-- The keys, oldest first. -/
def keys (w : Watch) : List String := w.registry.debouncers.keys

/-- An offer makes its key, if this is not there yet. Nothing else makes one, and none is lost. -/
theorem keys_use (w : Watch) (u : Use) :
    (w.use u).keys = w.keys ++ u.offered?.toList.filter (· ∉ w.keys) := by
  cases u with
  | offer key | offerWithin key own => exact w.registry.debouncers.keys_put key _
  | collect key | reset key =>
    -- A key that is not there is left alone, and the debouncer of any other stays in its place.
    rw [Use.offered?, Option.toList_none, List.filter_nil, List.append_nil]
    simp only [keys, use, DebounceRegistry.collect, DebounceRegistry.reset]
    split
    case h_1 => rfl
    case h_2 d hfound => exact Keyed.keys_put_of_find? hfound _
  | wait nanos => simp [keys, use, Use.offered?]

theorem mem_keys_run (w : Watch) (uses : List Use) :
    key ∈ (w.run uses).keys ↔ key ∈ w.keys ∨ key ∈ uses.filterMap Use.offered? := by
  induction uses generalizing w with
  | nil => simp [run]
  | cons u rest ih =>
    have hrest : key ∈ (w.run (u :: rest)).keys ↔ _ := ih (w.use u)
    rw [hrest, keys_use]
    cases hu : u.offered? with
    | none => simp [hu]
    | some other =>
      -- An offer to a key that is there adds nothing, and the key is listed all the same.
      by_cases hk : key = other <;> simp [hu, hk, Classical.em]

theorem nodup_keys_run {w : Watch} (h : w.keys.Nodup) (uses : List Use) :
    (w.run uses).keys.Nodup := by
  induction uses generalizing w with
  | nil => exact h
  | cons u rest ih =>
    refine ih ?_
    rw [keys_use]
    refine List.nodup_append.mpr ⟨h, ?_, ?_⟩
    · cases u.offered? with
      | none => exact List.Pairwise.nil
      | some key => exact (List.pairwise_singleton _ key).filter _
    · rintro key hkey new hnew rfl
      exact of_decide_eq_true (List.mem_filter.mp hnew).2 hkey

end Watch

/-- **Keys are debounced apart.** However the uses of a key are mixed with those of others, and
whatever window an offer brings along, the registry answers for this key what a debouncer answers
that is used for this key alone, at the same moments. The number of its keys is that of the
different keys that were offered something: an offer makes a key that is not there yet, nothing else
makes one, and none is lost. -/
theorem keys_independent (start : Moment) (window : Span) (uses : List Use) :
    let w := (Watch.new start window).run uses
    (∀ key, w.callsOf key
        = ((Debouncer.Watch.new start).run (uses.filterMap (Use.on key window))).calls) ∧
      w.registry.size = (uses.filterMap Use.offered?).toFinset.card ∧
      (∀ key, key ∈ w.keys ↔ key ∈ uses.filterMap Use.offered?) ∧
      ∀ u, (w.use u).keys = w.keys ++ u.offered?.toList.filter (· ∉ w.keys) := by
  intro w
  have hmem : ∀ key, key ∈ w.keys ↔ key ∈ uses.filterMap Use.offered? := by
    intro key
    rw [Watch.mem_keys_run]
    exact or_iff_right List.not_mem_nil
  have hnew : (Watch.new start window).keys.Nodup := List.Pairwise.nil
  have hnodup : w.keys.Nodup := Watch.nodup_keys_run hnew uses
  refine ⟨fun key => ?_, ?_, hmem, w.keys_use⟩
  · exact ((follows_new start window key).run uses).calls.symm
  · have hsame : w.keys.toFinset = (uses.filterMap Use.offered?).toFinset :=
      Finset.ext fun key => by simpa using hmem key
    have hsize : w.registry.size = w.keys.length := (List.length_map Prod.fst).symm
    rw [hsize, ← List.toFinset_card_of_nodup hnodup, hsame]

/-- Two keys and a third that is never offered anything: each answer is the one that the key gets
alone, and two keys are counted. -/
example :
    let uses : List Use := [.collect "c", .offer "a", .reset "c", .offerWithin "b" .zero,
      .wait nanosPerSecond, .offer "a", .offer "b", .collect "a", .collect "b"]
    let w := (Watch.new .start (.ofSeconds 10)).run uses
    w.callsOf "a" = [.collected ⟨nanosPerSecond⟩ true (.ofSeconds 9),
      .offered ⟨nanosPerSecond⟩ (.ofSeconds 10) false, .offered .start (.ofSeconds 10) true] ∧
    w.registry.size = 2 := ⟨rfl, rfl⟩

end BlueprintControl.DebounceRegistry
