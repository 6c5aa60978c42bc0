import BlueprintControl.Proofs.Scheduling.Doubling

/-!
# The keys of a backoff

All keys share the bounds of a backoff and nothing else: the delays of a key are those that it would
get if no other key were ever used. As long as a key is not reset its delays grow, or stay where
they are once the factor is at its end or the product at the longest delay.

## Main definitions

* `usesOf`, `delaysOf`: what is done with one key, and the delays that it is given.
* `Same`: two backoffs that are the same to one key.

## Main statements

* `Same.use`, `Same.use_of_ne`: what a use of the key, and of another key, does to such backoffs.
* `Same.delaysOf_usesOf`: the other keys can be left out.
* `pairwise_delaysOf`: without a reset the delays do not get shorter.
* `keys_apart`: what holds of each key, however its uses are mixed with those of others.
-/
namespace BlueprintControl.Backoff

variable {b c : Backoff} {key : String} {uses : List Use} {u : Use}

/-- What is done with one key, in its order. -/
def usesOf (key : String) (uses : List Use) : List Use := uses.filter fun u => u.key == key

/-- The delay that a key is given by a use: one for its failure, and none for anything else. -/
def delay? (b : Backoff) (key : String) : Use → Option Span
  | .fail other => if other = key then some (b.next key).1 else none
  | .reset _ => none

/-- The delays that a key is given while the backoff is used, in their order. -/
def delaysOf (key : String) (b : Backoff) : List Use → List Span
  | [] => []
  | u :: rest => (b.delay? key u).toList ++ delaysOf key (b.use u) rest

theorem delay?_eq_some_iff {d : Span} :
    b.delay? key u = some d ↔ u = .fail key ∧ b.delay (b.failures key) = d := by
  cases u <;> simp [delay?, next]

theorem delay?_of_ne (h : u.key ≠ key) : b.delay? key u = none := by
  cases u with
  | fail other => exact if_neg h
  | reset other => rfl

theorem usesOf_cons_of_eq (h : u.key = key) : usesOf key (u :: uses) = u :: usesOf key uses := by
  simp [usesOf, h]

theorem usesOf_cons_of_ne (h : u.key ≠ key) : usesOf key (u :: uses) = usesOf key uses := by
  simp [usesOf, h]

/-! ## Other keys -/

/-- Two backoffs are the same to one key: their bounds and the failures of this key are. -/
structure Same (key : String) (b c : Backoff) : Prop where
  base : c.base = b.base
  longest : c.longest = b.longest
  failures : c.failures key = b.failures key

namespace Same

theorem refl (key : String) (b : Backoff) : Same key b b := ⟨rfl, rfl, rfl⟩

theorem delay (h : Same key b c) (n : Nat) : c.delay n = b.delay n := by
  simp only [Backoff.delay, h.base, h.longest]

/-- The key is given the same delay by both. -/
theorem delay?_eq (h : Same key b c) (u : Use) : c.delay? key u = b.delay? key u := by
  cases u <;> simp only [delay?, next, h.failures, h.delay]

/-- A use of the key does the same to both. -/
theorem use (h : Same key b c) (hu : u.key = key) : Same key (b.use u) (c.use u) := by
  subst hu
  cases u with
  | fail key =>
    have hfailures : c.failures key = b.failures key := h.failures
    exact ⟨h.base, h.longest, by simp [Backoff.use, Use.key, hfailures]⟩
  | reset key => exact ⟨h.base, h.longest, by simp [Backoff.use, Use.key]⟩

/-- A use of another key is not seen. -/
theorem use_of_ne (h : Same key b c) (hu : u.key ≠ key) : Same key (b.use u) c := by
  cases u with
  | fail other | reset other =>
    have hother : key ≠ other := Ne.symm hu
    exact ⟨h.base, h.longest, by simp [Backoff.use, hother, h.failures]⟩

/-- To one key it makes no difference that the uses of all others are left out. -/
theorem run_usesOf (h : Same key b c) (uses : List Use) :
    Same key (b.run uses) (c.run (usesOf key uses)) := by
  induction uses generalizing b c with
  | nil => exact h
  | cons u rest ih =>
    by_cases hu : u.key = key
    · rw [usesOf_cons_of_eq hu]
      exact ih (h.use hu)
    · rw [usesOf_cons_of_ne hu]
      exact ih (h.use_of_ne hu)

/-- The delays of one key stay the same when the uses of all others are left out. -/
theorem delaysOf_usesOf (h : Same key b c) (uses : List Use) :
    c.delaysOf key (usesOf key uses) = b.delaysOf key uses := by
  induction uses generalizing b c with
  | nil => rfl
  | cons u rest ih =>
    by_cases hu : u.key = key
    · rw [usesOf_cons_of_eq hu, delaysOf, delaysOf, ih (h.use hu), h.delay?_eq u]
    · rw [usesOf_cons_of_ne hu, delaysOf, delay?_of_ne hu, ih (h.use_of_ne hu)]
      rfl

end Same

/-! ## Growing delays -/

theorem factor_mono {m n : Nat} (h : m ≤ n) : factor m ≤ factor n := by
  have hpow : 2 ^ m ≤ 2 ^ n := Nat.pow_le_pow_right (by decide) h
  rw [factor_eq_min, factor_eq_min]
  omega

theorem delay_mono (b : Backoff) {m n : Nat} (h : m ≤ n) :
    (b.delay m).nanos ≤ (b.delay n).nanos := by
  have hproduct : b.base.nanos * factor m ≤ b.base.nanos * factor n :=
    Nat.mul_le_mul_left _ (factor_mono h)
  rw [nanos_delay, nanos_delay]
  omega

/-- The delay that a key is to get next does not get shorter unless the key is reset. -/
theorem delay_failures_le_use (hu : u ≠ .reset key) :
    (b.delay (b.failures key)).nanos ≤ ((b.use u).delay ((b.use u).failures key)).nanos := by
  have hbounds : (b.use u).delay ((b.use u).failures key) = b.delay ((b.use u).failures key) :=
    delay_run b [u] _
  rw [hbounds]
  cases u with
  | fail other =>
    by_cases hkey : key = other
    · subst hkey
      simp only [use, failures_next, if_true, delay_min_ceiling]
      exact delay_mono b (Nat.le_succ _)
    · simp [use, hkey]
  | reset other =>
    have hkey : key ≠ other := by
      rintro rfl
      exact hu rfl
    simp [use, hkey]

theorem mem_delaysOf_cons_iff {d : Span} : d ∈ b.delaysOf key (u :: uses) ↔
    u = .fail key ∧ b.delay (b.failures key) = d ∨ d ∈ (b.use u).delaysOf key uses := by
  rw [delaysOf, List.mem_append, Option.mem_toList, delay?_eq_some_iff]

/-- No later delay is shorter than the one that the key is to get next. -/
theorem delay_failures_le_of_mem (hr : Use.reset key ∉ uses) {d : Span}
    (h : d ∈ b.delaysOf key uses) : (b.delay (b.failures key)).nanos ≤ d.nanos := by
  induction uses generalizing b with
  | nil => cases h
  | cons u rest ih =>
    obtain ⟨hu, hrest⟩ := not_or.mp (mt List.mem_cons.mpr hr)
    rcases mem_delaysOf_cons_iff.mp h with ⟨-, rfl⟩ | htail
    · exact Nat.le_refl _
    · exact Nat.le_trans (delay_failures_le_use (Ne.symm hu)) (ih hrest htail)

/-- Without a reset the delays of a key do not get shorter. -/
theorem pairwise_delaysOf (hr : Use.reset key ∉ uses) :
    (b.delaysOf key uses).Pairwise fun d e => d.nanos ≤ e.nanos := by
  induction uses generalizing b with
  | nil => exact List.Pairwise.nil
  | cons u rest ih =>
    obtain ⟨hu, hrest⟩ := not_or.mp (mt List.mem_cons.mpr hr)
    rw [delaysOf]
    cases hgiven : b.delay? key u with
    | none => exact ih hrest
    | some d =>
      obtain ⟨-, rfl⟩ := delay?_eq_some_iff.mp hgiven
      refine List.pairwise_cons.mpr ⟨fun e he => ?_, ih hrest⟩
      exact Nat.le_trans (delay_failures_le_use (Ne.symm hu)) (delay_failures_le_of_mem hrest he)

/-! ## Bounds -/

theorem longest_use (b : Backoff) (u : Use) : (b.use u).longest = b.longest := by
  cases u <;> rfl

theorem longest_run (b : Backoff) (uses : List Use) : (b.run uses).longest = b.longest := by
  induction uses generalizing b with
  | nil => rfl
  | cons u rest ih => exact (ih (b.use u)).trans (longest_use b u)

theorem le_longest_of_mem (b : Backoff) (uses : List Use) :
    ∀ d ∈ b.delaysOf key uses, d.nanos ≤ b.longest.nanos := by
  induction uses generalizing b with
  | nil => simp [delaysOf]
  | cons u rest ih =>
    intro d hd
    rcases mem_delaysOf_cons_iff.mp hd with ⟨-, rfl⟩ | htail
    · exact delay_le_longest b _
    · exact longest_use b u ▸ ih (b.use u) d htail

/-- Each failure of the key is given a delay. -/
theorem length_delaysOf (b : Backoff) (key : String) (uses : List Use) :
    (b.delaysOf key uses).length = (usesOf key uses).countP Use.isFailure := by
  induction uses generalizing b with
  | nil => rfl
  | cons u rest ih =>
    rw [delaysOf, List.length_append, ih, Nat.add_comm]
    by_cases hu : u.key = key
    · rw [usesOf_cons_of_eq hu, List.countP_cons]
      subst hu
      cases u <;> simp [delay?, Use.isFailure, Use.key]
    · rw [usesOf_cons_of_ne hu, delay?_of_ne hu]
      rfl

/-- **Keys do not disturb each other, and their delays grow.** However the failures and resets of a
key are mixed with those of others, the key is given the delays that it would get alone. Its
failures since its last reset are remembered, up to `2 ^ 32 - 1` of them. Every further failure is
given a delay: the base times two to the number of failures before it, where the factor is at most
`2 ^ 32 - 1` and the product at most the longest delay, so that neither count nor factor leaves 32
bits and no product is cut off. As long as the key is not reset its delays do not get shorter. -/
theorem keys_apart (base longest : Span) (key : String) (before after : List Use) :
    let b := make base longest
    let n := failuresInARow key before
    let delays := (b.run before).delaysOf key after
    delays = (b.run (usesOf key before)).delaysOf key (usesOf key after) ∧
      (b.run before).failures key = min n (2 ^ 32 - 1) ∧
      ((b.run before).next key).1.nanos
        = min (base.nanos * min (2 ^ n) (2 ^ 32 - 1)) longest.nanos ∧
      delays.length = (usesOf key after).countP Use.isFailure ∧
      (∀ d ∈ delays, d.nanos ≤ longest.nanos) ∧
      (Use.reset key ∉ after → delays.Pairwise fun d e => d.nanos ≤ e.nanos) := by
  intro b n delays
  have hnew : b.failures key = 0 := rfl
  have hbounds : (b.run before).longest = longest := longest_run b before
  refine ⟨?apart, ?failures, ?next, length_delaysOf _ key after, ?longest, pairwise_delaysOf⟩
  case apart => exact (((Same.refl key b).run_usesOf before).delaysOf_usesOf after).symm
  case failures =>
    have hceiling : ceiling = 2 ^ 32 - 1 := by decide
    rw [failures_run hnew, hceiling]
  case next => rw [fst_next_run hnew, nanos_delay, factor_eq_min]; rfl
  case longest => exact fun d hd => hbounds ▸ le_longest_of_mem _ after d hd

/-- Two keys in turn, one of which is reset. The other one has been reset before, and its delays
double up to the longest. -/
theorem keys_apart_in_turn :
    let before : List Use := [.fail "a", .fail "b", .reset "a"]
    let after : List Use := [.fail "a", .fail "b", .fail "a", .reset "b", .fail "a", .fail "a"]
    let delays := ((make (.ofSeconds 1) (.ofSeconds 5)).run before).delaysOf "a" after
    Use.reset "a" ∉ after ∧ delays = [.ofSeconds 1, .ofSeconds 2, .ofSeconds 4, .ofSeconds 5] ∧
      delays.Pairwise fun d e => d.nanos ≤ e.nanos := by
  intro before after delays
  have hreset : Use.reset "a" ∉ after := by simp [after]
  have hkeys := keys_apart (.ofSeconds 1) (.ofSeconds 5) "a" before after
  exact ⟨hreset, by decide +kernel, hkeys.2.2.2.2.2 hreset⟩

end BlueprintControl.Backoff
