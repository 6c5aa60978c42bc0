import BlueprintControl.Scheduling.Backoff
import Mathlib.Data.List.Induction

/-!
# A backoff and the failures of its keys

A backoff remembers for each key how many failures there have been since the last reset, and no
more of them than fit into 32 bits. The delay is made from this number. It never leaves the bounds
that the backoff was made with, whether or not the product fits.

## Main definitions

* `Use`, `run`: what can be done with a backoff, and all that is done with it.
* `failuresInARow`: the failures of a key since its last reset.

## Main statements

* `failures_run`: what is remembered after any run.
* `nanos_delay`: how long a delay is.
* `delay_zero`, `delay_pos`, `delay_le_longest`: the first delay, and the bounds of all of them.
-/
namespace BlueprintControl.Backoff

/-- What can be done with a backoff. -/
inductive Use where
  | fail (key : String)
  | reset (key : String)

namespace Use

def key : Use → String
  | .fail key | .reset key => key

def isFailure : Use → Bool
  | .fail _ => true
  | .reset _ => false

end Use

variable {b : Backoff} {key : String}

def use (b : Backoff) : Use → Backoff
  | .fail key => (b.next key).2
  | .reset key => b.reset key

/-- Everything that is done with a backoff, one after another. -/
def run (b : Backoff) (uses : List Use) : Backoff := uses.foldl use b

theorem run_concat (b : Backoff) (uses : List Use) (u : Use) :
    b.run (uses ++ [u]) = (b.run uses).use u := by
  simp [run]

/-- The failures of a key since its last reset. -/
def failuresInARow (key : String) (uses : List Use) : Nat :=
  ((uses.filter fun u => u.key == key).reverse.takeWhile Use.isFailure).length

theorem failuresInARow_concat (key : String) (uses : List Use) (u : Use) :
    failuresInARow key (uses ++ [u])
      = if u.key = key then if u.isFailure then failuresInARow key uses + 1 else 0
        else failuresInARow key uses := by
  by_cases hkey : u.key = key
  · by_cases hfailure : u.isFailure = true <;> simp [failuresInARow, hkey, hfailure]
  · simp [failuresInARow, hkey]

/-- The failures in a row are remembered, as far as 32 bits go. -/
theorem failures_run (hnew : b.failures key = 0) (uses : List Use) :
    (b.run uses).failures key = min (failuresInARow key uses) ceiling := by
  induction uses using List.reverseRecOn with
  | nil => simpa [run, failuresInARow] using hnew
  | append_singleton uses u ih =>
    rw [run_concat, failuresInARow_concat]
    cases u with
    | fail other =>
      by_cases hkey : other = key
      · simp only [use, Use.key, Use.isFailure, failures_next, hkey, ih, if_true]
        omega
      · simp [use, Use.key, hkey, Ne.symm hkey, ih]
    | reset other =>
      by_cases hkey : other = key
      · simp [use, Use.key, Use.isFailure, hkey]
      · simp [use, Use.key, hkey, Ne.symm hkey, ih]

/-! ## Delays -/

/-- What is done with a backoff changes what is remembered, and not how long the delays are. -/
theorem delay_run (b : Backoff) (uses : List Use) (n : Nat) : (b.run uses).delay n = b.delay n := by
  induction uses using List.reverseRecOn with
  | nil => rfl
  | append_singleton uses u ih =>
    rw [run_concat, ← ih]
    cases u <;> rfl

theorem factor_min_ceiling (n : Nat) : factor (min n ceiling) = factor n := by
  have hceiling : ceiling = 4294967295 := by decide
  unfold factor
  by_cases h : n < 32
  · have hn : min n ceiling = n := by omega
    rw [hn]
  · have hn : ¬ min n ceiling < 32 := by omega
    rw [if_neg h, if_neg hn]

/-- More failures than can be remembered make no difference. -/
theorem delay_min_ceiling (b : Backoff) (n : Nat) : b.delay (min n ceiling) = b.delay n := by
  simp only [delay, factor_min_ceiling]

/-- The delay of a key is the one for its failures in a row. -/
theorem fst_next_run (hnew : b.failures key = 0) (uses : List Use) :
    ((b.run uses).next key).1 = b.delay (failuresInARow key uses) := by
  have hfailures := failures_run hnew uses
  simp only [next, hfailures, delay_run, delay_min_ceiling]

theorem factor_pos (n : Nat) : 0 < factor n := by
  unfold factor
  split
  · exact Nat.two_pow_pos n
  · decide

/-- The delay is the product, as far as it stays below the longest. A product that is out of range
does not. -/
theorem nanos_delay (b : Backoff) (n : Nat) :
    (b.delay n).nanos = min (b.base.nanos * factor n) b.longest.nanos := by
  have hlongest := b.longest.nanos_lt
  by_cases hrange : b.base.nanos * factor n < Span.limit
  · rw [delay, Span.mul?, Span.ofNanos?_of_lt hrange]
    exact Span.nanos_min _ _
  · have hlimit : Span.limit ≤ b.base.nanos * factor n := Nat.le_of_not_lt hrange
    rw [delay, Span.mul?, Span.ofNanos?_of_le hlimit]
    exact (Nat.min_eq_right (Nat.le_of_lt (Nat.lt_of_lt_of_le hlongest hlimit))).symm

theorem delay_le_longest (b : Backoff) (n : Nat) : (b.delay n).nanos ≤ b.longest.nanos := by
  rw [nanos_delay]
  exact Nat.min_le_right _ _

theorem delay_pos (hbase : 0 < b.base.nanos) (hlongest : 0 < b.longest.nanos) (n : Nat) :
    0 < (b.delay n).nanos := by
  rw [nanos_delay]
  exact Nat.lt_min.mpr ⟨Nat.mul_pos hbase (factor_pos n), hlongest⟩

/-- The first delay is the base, if this is not more than the longest. -/
theorem delay_zero (h : b.base.nanos ≤ b.longest.nanos) : b.delay 0 = b.base := by
  have hfactor : factor 0 = 1 := rfl
  apply Span.ext
  rw [nanos_delay, hfactor, Nat.mul_one]
  exact Nat.min_eq_left h

end BlueprintControl.Backoff
