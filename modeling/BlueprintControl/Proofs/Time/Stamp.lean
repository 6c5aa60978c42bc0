import BlueprintControl.Time.StampReader

/-!
# Reading back time stamps

The written form of a stamp is read back as the stamp. Numbers are written with leading zeros and
read digit by digit, so most of this is about runs of digits.

## Main statements

* `Stamp.number_append`: a run of digits is read as the number it stands for.
* `Stamp.parse_render`: a stamp is read back as it was written.
-/
namespace BlueprintControl

/-! ## Runs of digits -/

theorem ofDigitChars_padded (width n : Nat) : Nat.ofDigitChars 10 (padded width n) 0 = n := by
  simp [padded, Nat.ofDigitChars_append]

theorem isDigit_of_mem_padded {width n : Nat} : ∀ c ∈ padded width n, c.isDigit = true := by
  intro c hc
  rcases List.mem_append.mp hc with hzero | hdigit
  · rw [List.eq_of_mem_replicate hzero]
    rfl
  · exact Nat.isDigit_of_mem_toDigits (by decide) (by decide) hdigit

theorem padded_ne_nil (width n : Nat) : padded width n ≠ [] := by
  simp [padded]

theorem length_padded {width n : Nat} (hw : 0 < width) (hn : n < Nat.pow 10 width) :
    (padded width n).length = width := by
  have := (Nat.length_toDigits_le_iff (by decide) hw).mpr hn
  simp only [padded, List.length_append, List.length_replicate]
  omega

theorem isBlank_of_isDigit {c : Char} (h : c.isDigit = true) : Text.isBlank c = false := by
  have h := Char.isDigit_iff_toNat.mp h
  simp only [Char.reduceToNat] at h
  simp only [Text.isBlank]
  simp
  omega

namespace Stamp

theorem digitValue?_of_isDigit {c : Char} (h : c.isDigit = true) :
    digitValue? c = some (c.toNat - '0'.toNat) := by
  obtain ⟨hlow, hhigh⟩ : '0' ≤ c ∧ c ≤ '9' := Char.isDigit_iff_toNat.mp h
  simp [digitValue?, hlow, hhigh]

/-- What follows a number and ends it. -/
def EndsNumber (rest : List Char) : Prop := ∀ c ∈ rest.head?, digitValue? c = none

theorem le_ofDigitChars (cs : List Char) (n : Nat) : n ≤ Nat.ofDigitChars 10 cs n := by
  rw [Nat.ofDigitChars_eq_ofDigitChars_zero]
  have := Nat.le_mul_of_pos_left n (Nat.pow_pos (n := cs.length) (a := 10) (by decide))
  omega

theorem digits_append {ds rest : List Char} (hd : ∀ c ∈ ds, c.isDigit = true) :
    ∀ {width acc : Nat}, ds.length ≤ width → (width = ds.length ∨ EndsNumber rest) →
      Nat.ofDigitChars 10 ds acc < numberLimit →
      digits width acc (ds ++ rest) = .ok (Nat.ofDigitChars 10 ds acc, rest) := by
  induction ds with
  | nil =>
    intro width acc _ hend _
    rcases hend with rfl | hend
    · simp [digits]
    · cases width with
      | zero => simp [digits]
      | succ width =>
        cases rest with
        | nil => simp [digits]
        | cons c rest => simp [digits, hend c rfl]
  | cons c ds ih =>
    intro width acc hwidth hend hlimit
    obtain ⟨hc, hds⟩ := List.forall_mem_cons.mp hd
    obtain _ | width := width
    · simp at hwidth
    · rw [Nat.ofDigitChars_cons, Nat.mul_comm] at hlimit ⊢
      have hnext : acc * 10 + (c.toNat - '0'.toNat) < numberLimit :=
        Nat.lt_of_le_of_lt (le_ofDigitChars ds _) hlimit
      simp only [List.cons_append, digits, digitValue?_of_isDigit hc, hnext, if_true]
      refine ih hds (Nat.le_of_succ_le_succ hwidth) ?_ hlimit
      exact hend.imp_left Nat.succ.inj

theorem number_append (width : Nat) {ds : List Char} (rest : List Char)
    (hd : ∀ c ∈ ds, c.isDigit = true) (hne : ds ≠ []) (hwidth : ds.length ≤ width)
    (hend : width = ds.length ∨ EndsNumber rest)
    (hlimit : Nat.ofDigitChars 10 ds 0 < numberLimit) :
    number width (ds ++ rest) = .ok (Nat.ofDigitChars 10 ds 0, rest) := by
  rw [← digits_append hd hwidth hend hlimit]
  obtain ⟨c, cs, rfl⟩ := List.exists_cons_of_ne_nil hne
  simp [number, digitValue?_of_isDigit (hd c List.mem_cons_self)]

/-- A number that is written in a field of its own is read back, and nothing else with it. -/
theorem number_padded {width n : Nat} (hw : 0 < width) (hn : n < Nat.pow 10 width)
    (hlimit : n < numberLimit) (rest : List Char) :
    number width (padded width n ++ rest) = .ok (n, rest) := by
  have hlength := length_padded hw hn
  have hread := number_append width rest isDigit_of_mem_padded (padded_ne_nil width n)
    (Nat.le_of_eq hlength) (.inl hlength.symm) (by rwa [ofDigitChars_padded])
  rwa [ofDigitChars_padded] at hread

/-- A number that may be as long as the text ends where something else starts. -/
theorem number_length (width : Nat) {n : Nat} {rest : List Char} (hrest : EndsNumber rest)
    (hlimit : n < numberLimit) :
    number (padded width n ++ rest).length (padded width n ++ rest) = .ok (n, rest) := by
  have hread := number_append (padded width n ++ rest).length rest isDigit_of_mem_padded
    (padded_ne_nil width n) (by simp) (.inr hrest) (by rwa [ofDigitChars_padded])
  rwa [ofDigitChars_padded] at hread

/-! ## Parts of a stamp -/

theorem trimStart_padded (width n : Nat) (rest : List Char) :
    Text.trimStart (padded width n ++ rest) = padded width n ++ rest := by
  obtain ⟨c, cs, hcs⟩ := List.exists_cons_of_ne_nil (padded_ne_nil width n)
  have hc : c.isDigit = true := isDigit_of_mem_padded c (hcs ▸ List.mem_cons_self)
  simp [hcs, Text.trimStart, isBlank_of_isDigit hc]

theorem hundred_lt_numberLimit : 100 < numberLimit := by decide

theorem bounded_padded {low high n : Nat} (hlow : low ≤ n) (hhigh : n ≤ high) (h : high < 100)
    (rest : List Char) : bounded 2 low high (padded 2 n ++ rest) = .ok (n, rest) := by
  have hnumber : number 2 (padded 2 n ++ rest) = .ok (n, rest) :=
    number_padded (by decide) (show n < 100 by omega)
      (Nat.lt_trans (by omega) hundred_lt_numberLimit) rest
  simp [bounded, trimStart_padded, hnumber, hlow, hhigh, bind, Except.bind, pure, Except.pure]

theorem separator_cons {c : Char} (h : Text.isBlank c = false) (rest : List Char) :
    separator c (c :: rest) = .ok rest := by
  simp [separator, Text.trimStart, h]

/-- Written numbers start with a digit and not with a sign. -/
theorem padded_append_ne_cons {c : Char} (hc : c.isDigit = false) (width n : Nat)
    (rest other : List Char) : padded width n ++ rest ≠ c :: other := by
  obtain ⟨d, ds, hds⟩ := List.exists_cons_of_ne_nil (padded_ne_nil width n)
  have hd : d.isDigit = true := isDigit_of_mem_padded d (hds ▸ List.mem_cons_self)
  rw [hds]
  rintro heq
  cases heq
  exact absurd hd (by simp [hc])

theorem checkedYear_ok {y : Int} (h : firstYear ≤ y ∧ y ≤ lastYear) (rest : List Char) :
    checkedYear y rest = .ok (y, rest) := by
  unfold firstYear lastYear at h
  have hrange : -(Nat.pow 2 31 : Int) ≤ y ∧ y < Nat.pow 2 31 := by
    rw [show Nat.pow 2 31 = 2147483648 from rfl]
    omega
  exact if_pos hrange

theorem year_plus {cs rest : List Char} {n : Nat} (h : number cs.length cs = .ok (n, rest)) :
    year ('+' :: cs) = checkedYear n rest := by
  have htrim : Text.trimStart ('+' :: cs) = '+' :: cs := rfl
  simp only [year, htrim, h, bind, Except.bind]

theorem year_minus {cs rest : List Char} {n : Nat} (h : number cs.length cs = .ok (n, rest)) :
    year ('-' :: cs) = checkedYear (-n) rest := by
  have htrim : Text.trimStart ('-' :: cs) = '-' :: cs := rfl
  simp only [year, htrim, h, bind, Except.bind]

theorem year_padded {n width : Nat} {cs rest : List Char}
    (h : number 4 (padded width n ++ cs) = .ok (n, rest)) :
    year (padded width n ++ cs) = checkedYear n rest := by
  unfold year
  rw [trimStart_padded]
  split
  case h_1 heq => exact absurd heq (padded_append_ne_cons rfl _ _ _ _)
  case h_2 heq => exact absurd heq (padded_append_ne_cons rfl _ _ _ _)
  case h_3 => simp only [h, bind, Except.bind]

theorem year_yearText {y : Int} (h : firstYear ≤ y ∧ y ≤ lastYear) (rest : List Char) :
    year (yearText y ++ '-' :: rest) = .ok (y, '-' :: rest) := by
  have hdash : EndsNumber ('-' :: rest) := by
    rintro c hc
    cases hc
    rfl
  have hlimit : y.natAbs < numberLimit := by
    unfold firstYear lastYear at h
    exact Nat.lt_trans (m := 300000) (by omega) (by decide)
  rw [← checkedYear_ok h ('-' :: rest)]
  unfold yearText
  split
  case isTrue hfour =>
    rw [year_padded (number_padded (by decide) (show y.toNat < 10000 by omega)
      (Nat.lt_of_le_of_lt (by omega) hlimit) _), Int.toNat_of_nonneg hfour.1]
  case isFalse =>
    split
    case isTrue hpos =>
      rw [List.cons_append,
        year_plus (number_length 4 hdash (Nat.lt_of_le_of_lt (by omega) hlimit)),
        Int.toNat_of_nonneg hpos]
    case isFalse hneg =>
      rw [List.cons_append, year_minus (number_length 4 hdash hlimit),
        show -(y.natAbs : Int) = y by omega]

/-- Dropped digits were zeros, so that the ones that are left say as much. -/
theorem fraction_padded {width n nano : Nat} (hw : 0 < width) (hwidth : width ≤ 9)
    (hn : n < Nat.pow 10 width) (hnano : n * Nat.pow 10 (9 - width) = nano) {rest : List Char}
    (hrest : EndsNumber rest) : fraction (padded width n ++ rest) = .ok (nano, rest) := by
  have hlength := length_padded hw hn
  have hlimit : n < numberLimit :=
    calc n < Nat.pow 10 width := hn
      _ ≤ Nat.pow 10 9 := Nat.pow_le_pow_right (by decide) hwidth
      _ < numberLimit := by decide
  have hread := number_append 9 rest isDigit_of_mem_padded
    (padded_ne_nil width n) (by omega) (.inr hrest) (by rwa [ofDigitChars_padded])
  have hdrop : rest.dropWhile (fun c => (digitValue? c).isSome) = rest := by
    cases rest with
    | nil => rfl
    | cons c rest => simp [hrest c rfl]
  rw [ofDigitChars_padded] at hread
  simpa [fraction, hread, hlength, hdrop, bind, Except.bind, pure, Except.pure] using hnano

theorem fraction?_fractionText {nano : Nat} (h : nano < 1000000000) :
    fraction? (fractionText nano ++ ['Z']) = .ok (nano, ['Z']) := by
  have hz : EndsNumber ['Z'] := by
    rintro c hc
    cases hc
    rfl
  unfold fractionText
  split
  case isTrue hzero => simp [fraction?, hzero]
  case isFalse =>
    split
    case isTrue hmilli =>
      exact fraction_padded (by decide) (by decide) (show nano / 1000000 < 1000 by omega)
        (show nano / 1000000 * 1000000 = nano by omega) hz
    case isFalse =>
      split
      case isTrue hmicro =>
        exact fraction_padded (by decide) (by decide) (show nano / 1000 < 1000000 by omega)
          (show nano / 1000 * 1000 = nano by omega) hz
      case isFalse =>
        exact fraction_padded (by decide) (by decide) h (Nat.mul_one nano) hz

theorem month_le {y : Int} {month day : Nat} (h : 1 ≤ day ∧ day ≤ daysIn y month) :
    1 ≤ month ∧ month ≤ 12 ∧ day ≤ 31 := by
  obtain ⟨hfirst, hlast⟩ := h
  unfold daysIn at hlast
  split at hlast <;> first | omega | skip
  split at hlast <;> omega

theorem shift_zero (d : Day) (hour : Fin 24) (minute : Fin 60) (second : Fin 61)
    (nano : Fin 1000000000) :
    shift d (hour * 60 + minute) 0 second nano = .ok ⟨d, hour, minute, second, nano⟩ := by
  obtain ⟨hour, hhour⟩ := hour
  obtain ⟨minute, hminute⟩ := minute
  have hminutes : ((((hour * 60 + minute : Nat) : Int) - 0) % 1440).toNat = hour * 60 + minute := by
    omega
  have hdiv : (hour * 60 + minute) / 60 = hour := by omega
  have hmod : (hour * 60 + minute) % 60 = minute := by omega
  have hlow : ¬((hour * 60 + minute : Nat) : Int) - 0 < 0 := by omega
  have hhigh : ¬1440 ≤ ((hour * 60 + minute : Nat) : Int) - 0 := by omega
  simp only [shift, hlow, hhigh, if_false, hminutes, hdiv, hmod, hhour, dif_pos]

/-- A stamp is read back as it was written. -/
theorem parse_render (s : Stamp) : parse s.render = .ok s := by
  obtain ⟨d, hour, minute, second, nano⟩ := s
  obtain ⟨hfirst, hlast, hday⟩ := month_le d.day_mem
  have hyear := year_yearText d.year_mem
  have hhyphen := separator_cons (c := '-') (by decide)
  have hcolon := separator_cons (c := ':') (by decide)
  have hmonth := bounded_padded hfirst hlast (by decide)
  have hday := bounded_padded d.day_mem.1 hday (by decide)
  have hhour := bounded_padded (Nat.zero_le _) (Nat.le_of_lt_succ hour.isLt) (by decide)
  have hminute := bounded_padded (Nat.zero_le _) (Nat.le_of_lt_succ minute.isLt) (by decide)
  have hsecond := bounded_padded (Nat.zero_le _) (Nat.le_of_lt_succ second.isLt) (by decide)
  have hnano := fraction?_fractionText nano.isLt
  have hoffset : offset (Text.trimStart ['Z']) = .ok (0, []) := rfl
  simp only [parse, render, String.toList_ofList, dateText, clockText, List.append_assoc,
    List.cons_append, hyear, hhyphen, hmonth, hday, hhour, hcolon, hminute, hsecond, hnano,
    hoffset, bind, Except.bind, pure, Except.pure]
  simp [Text.trimStart, shift_zero]

end Stamp
end BlueprintControl
