/-!
# Doubles and their decimal text

A double is kept as its 64 bits. Numbers are rounded to the nearest double, ties to the even
one, and written with the fewest digits that read back, always in positional notation.

## Main definitions

* `Double.nearest`: the bits of the double nearest to a fraction.
* `Double.shortest`: the fewest digits that read back.
* `Double.text`: the positional form, with a decimal point.
-/
namespace BlueprintControl.Double

/-- Bits of positive infinity. -/
def infinity : Nat := 0x7FF0000000000000

/-- The quotient rounded to a whole number, a half to the even neighbour. -/
def roundDiv (num den : Nat) : Nat :=
  let q := num / den
  let r := num % den
  if 2 * r < den then q
  else if den < 2 * r then q + 1
  else if q % 2 = 0 then q else q + 1

/-- The largest `k` with `den * 2 ^ k ≤ num`, for positive numbers. -/
def floorLog2 (num den : Nat) : Int :=
  let k : Int := (Nat.log2 num : Int) - Nat.log2 den
  let scaled := if 0 ≤ k then decide (den * Nat.pow 2 k.toNat ≤ num)
    else decide (den ≤ num * Nat.pow 2 (-k).toNat)
  if scaled then k else k - 1

/-- The value of the leading bit of a normal double, which is not written. -/
def hidden : Nat := Nat.pow 2 52

/-- The bits of the double nearest to `num / den`. -/
def nearest (num den : Nat) : Nat :=
  if num = 0 ∨ den = 0 then 0
  else
    let e : Int := max (-1074) (floorLog2 num den - 52)
    let m := if 0 ≤ e then roundDiv num (den * Nat.pow 2 e.toNat)
      else roundDiv (num * Nat.pow 2 (-e).toNat) den
    let bits := if m < hidden then m else ((e + 1074).toNat + 1) * hidden + (m - hidden)
    min bits infinity

/-- The value of finite, non-negative bits as a fraction. -/
def fraction (bits : Nat) : Nat × Nat :=
  let e := bits / hidden
  let f := bits % hidden
  if e = 0 then (f, Nat.pow 2 1074)
  else if 1075 ≤ e then ((f + hidden) * Nat.pow 2 (e - 1075), 1)
  else (f + hidden, Nat.pow 2 (1075 - e))

/-- The fraction `digits * 10 ^ exponent`. -/
def decimal (digits : Nat) (exponent : Int) : Nat × Nat :=
  if 0 ≤ exponent then (digits * Nat.pow 10 exponent.toNat, 1)
  else (digits, Nat.pow 10 (-exponent).toNat)

/-- The bits of the double nearest to `digits * 10 ^ exponent`. -/
def ofDecimal (digits : Nat) (exponent : Int) : Nat :=
  if digits = 0 then 0
  else if 400 < exponent then infinity
  else if exponent + (Nat.toDigits 10 digits).length < -400 then 0
  else
    let (num, den) := decimal digits exponent
    nearest num den

/-- The number of digits in front of the point of a positive fraction; negative when zeros
follow the point. -/
def pointPosition (num den : Nat) : Int :=
  if den ≤ num then ((Nat.toDigits 10 (num / den)).length : Int)
  else 1 - ((Nat.toDigits 10 ((den + num - 1) / num - 1)).length : Int)

/-- The digits of a grid with `count` significant digits that read back as `bits`. -/
def digitsAt? (bits num den : Nat) (point : Int) (count : Nat) : Option (Nat × Int) :=
  let unit : Int := point - count
  let low := if 0 ≤ unit then num / (den * Nat.pow 10 unit.toNat)
    else num * Nat.pow 10 (-unit).toNat / den
  let reads (d : Nat) : Bool := ofDecimal d unit == bits
  let nearer : Nat :=
    let (unum, uden) := decimal 1 unit
    if 2 * num * uden < (2 * low + 1) * unum * den then low else low + 1
  if reads low && reads (low + 1) then some (nearer, unit)
  else if reads low then some (low, unit)
  else if reads (low + 1) then some (low + 1, unit)
  else none

/-- The fewest digits that read back as positive finite bits, and the exponent of the last. -/
def shortest (bits : Nat) : Nat × Int :=
  let (num, den) := fraction bits
  let point := pointPosition num den
  ((List.range 17).findSome? (fun i => digitsAt? bits num den point (i + 1))).getD (0, 0)

/-- Positional notation of `digits * 10 ^ exponent`. -/
def positional (digits : Nat) (exponent : Int) : List Char :=
  let ds := Nat.toDigits 10 digits
  if 0 ≤ exponent then ds ++ List.replicate exponent.toNat '0'
  else
    let places := (-exponent).toNat
    if places < ds.length then
      ds.take (ds.length - places) ++ '.' :: ds.drop (ds.length - places)
    else '0' :: '.' :: List.replicate (places - ds.length) '0' ++ ds

/-- Digits without trailing zeros. -/
def normalise (digits : Nat) (exponent : Int) : Nat → Nat × Int
  | 0 => (digits, exponent)
  | fuel + 1 =>
    if digits ≠ 0 ∧ digits % 10 = 0 then normalise (digits / 10) (exponent + 1) fuel
    else (digits, exponent)

/-- The text of a double: positional, with a decimal point unless it is no number. -/
def text (bits : UInt64) : String :=
  let n := bits.toNat % Nat.pow 2 63
  let sign := if bits.toNat < Nat.pow 2 63 then [] else ['-']
  if infinity < n then "NaN"
  else if n = infinity then String.ofList (sign ++ "inf".toList)
  else
    let (d, e) := if n = 0 then (0, 0) else shortest n
    let (d, e) := normalise d e 20
    let cs := positional d e
    String.ofList (sign ++ cs ++ if cs.contains '.' then [] else ['.', '0'])

end BlueprintControl.Double
