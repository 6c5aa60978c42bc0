import BlueprintControl.Proofs.Scheduling.Backoff
import Mathlib.Algebra.Order.Ring.Nat

/-!
# Doubling delays

The delay of a key doubles with each failure in a row, up to the maximum, for as long as the factor
fits into 32 bits. From the 32nd failure on the factor stays one below the power that would be due,
so that a base of less than a 2^32nd of the maximum never gets to the maximum.

## Main statements

* `factor_eq_min`: the factor is a power of two, cut off.
* `delay_doubles_iff`: how long the delay is, and when it is the one that doubling gives.
* `stops_doubling`: a millisecond never gets to ten million seconds.
-/
namespace BlueprintControl.Backoff

variable {n : Nat}

theorem factor_of_lt (h : n < 32) : factor n = 2 ^ n := if_pos h

theorem factor_of_le (h : 32 ≤ n) : factor n = 2 ^ 32 - 1 := by
  rw [factor, if_neg (Nat.not_lt.mpr h)]
  decide

theorem factor_eq_min (n : Nat) : factor n = min (2 ^ n) (2 ^ 32 - 1) := by
  obtain hn | hn := Nat.lt_or_ge n 32
  · have hpow : 2 ^ n < 2 ^ 32 := Nat.pow_lt_pow_right (by decide) hn
    rw [factor_of_lt hn]
    omega
  · have hpow : 2 ^ 32 ≤ 2 ^ n := Nat.pow_le_pow_right (by decide) hn
    rw [factor_of_le hn]
    omega

/-- That the factor stops is seen in the delay exactly if the last factor is short of the maximum. -/
theorem min_mul_factor_iff (base longest n : Nat) :
    min (base * factor n) longest = min (base * 2 ^ n) longest ↔
      n < 32 ∨ base = 0 ∨ longest ≤ base * (2 ^ 32 - 1) := by
  obtain hn | hn := Nat.lt_or_ge n 32
  · rw [factor_of_lt hn]
    exact iff_of_true rfl (.inl hn)
  · have hpow : 2 ^ 32 ≤ 2 ^ n := Nat.pow_le_pow_right (by decide) hn
    have hgrows : base * 2 ^ 32 ≤ base * 2 ^ n := Nat.mul_le_mul_left base hpow
    rw [factor_of_le hn]
    -- With a base of zero both products are, and the powers do not matter.
    obtain rfl | hbase := Nat.eq_zero_or_pos base
    · simp
    · omega

/-- **The delay doubles as far as 32 bits go.** Whatever has been done with a new backoff, the delay
of a key that has failed a number of times since its last reset is the base times two to this
number, where the factor is at most `2 ^ 32 - 1` and the product at most the longest delay. This is
what doubling without any limit of the factor gives exactly if there are fewer than 32 failures, the
base is zero, or the last factor is enough to get to the longest delay. -/
theorem delay_doubles_iff (base longest : Span) (uses : List Use) (key : String) :
    let n := failuresInARow key uses
    let delay := (((make base longest).run uses).next key).1
    delay.nanos = min (base.nanos * min (2 ^ n) (2 ^ 32 - 1)) longest.nanos ∧
      (delay.nanos = min (base.nanos * 2 ^ n) longest.nanos ↔
        n < 32 ∨ base.nanos = 0 ∨ longest.nanos ≤ base.nanos * (2 ^ 32 - 1)) := by
  intro n delay
  have hnew : (make base longest).failures key = 0 := rfl
  have hdelay : delay.nanos = min (base.nanos * factor n) longest.nanos := by
    have hnext : delay = (make base longest).delay n := fst_next_run hnew uses
    rw [hnext, nanos_delay]
    rfl
  rw [hdelay]
  exact ⟨by rw [factor_eq_min], min_mul_factor_iff base.nanos longest.nanos n⟩

/-- A millisecond never gets to ten million seconds: after 34 failures, when doubling is past it, the
delay is still less than half as long. -/
theorem stops_doubling :
    let uses := List.replicate 34 (Use.fail "bp")
    let delay := (((make (.ofMillis 1) (.ofSeconds 10000000)).run uses).next "bp").1
    failuresInARow "bp" uses = 34 ∧ delay = .ofMillis 4294967295 ∧
      min ((Span.ofMillis 1).nanos * 2 ^ 34) (Span.ofSeconds 10000000).nanos
        = (Span.ofSeconds 10000000).nanos ∧
      delay.nanos ≠ min ((Span.ofMillis 1).nanos * 2 ^ 34) (Span.ofSeconds 10000000).nanos := by
  decide +kernel

end BlueprintControl.Backoff
