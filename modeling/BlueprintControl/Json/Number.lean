import BlueprintControl.Json.Value
import BlueprintControl.Text.Double

/-!
# Reading JSON numbers

A number is an integer if it is written without a point or an exponent and fits 64 bits; every
other number is a double. The significand of a double keeps as many digits as fit 64 bits and is
then scaled by a power of ten, in steps of at most 10^308.

## Main definitions

* `Json.Numeral`: the parts of a written number.
* `Json.Numeral.ofChars?`: splits a word into the parts, if it is a number.
* `Json.Numeral.value?`: the number it stands for, if that is in range.
-/
namespace BlueprintControl.Json

/-- A number as written. -/
structure Numeral where
  negative : Bool
  whole : List Char
  fraction : Option (List Char)
  exponent : Option (Bool × List Char)
  deriving DecidableEq, Repr

namespace Numeral

/-- Whether the character is a decimal digit. -/
def isDigit (c : Char) : Bool := '0' ≤ c && c ≤ '9'

/-- A non-empty run of digits and what follows. -/
def digits? (cs : List Char) : Option (List Char × List Char) :=
  let ds := cs.takeWhile isDigit
  if ds.isEmpty then none else some (ds, cs.dropWhile isDigit)

/-- The digits in front of the point: zero, or digits that do not start with zero. -/
def whole? (cs : List Char) : Option (List Char × List Char) :=
  match cs with
  | '0' :: rest => some (['0'], rest)
  | cs => digits? cs

/-- The part from the exponent letter on. -/
def exponent? (cs : List Char) : Option (Option (Bool × List Char)) :=
  match cs with
  | [] => some none
  | c :: rest =>
    if c = 'e' ∨ c = 'E' then
      let (negative, rest) := match rest with
        | '-' :: r => (true, r)
        | '+' :: r => (false, r)
        | r => (false, r)
      match digits? rest with
      | some (ds, []) => some (some (negative, ds))
      | _ => none
    else none

/-- The parts of a number, if the whole word is one. -/
def ofChars? (cs : List Char) : Option Numeral :=
  let (negative, cs) := match cs with
    | '-' :: r => (true, r)
    | r => (false, r)
  match whole? cs with
  | none => none
  | some (whole, '.' :: rest) =>
    match digits? rest with
    | none => none
    | some (fraction, rest) =>
      (exponent? rest).map fun e => ⟨negative, whole, some fraction, e⟩
  | some (whole, rest) => (exponent? rest).map fun e => ⟨negative, whole, none, e⟩

/-- The value of a run of digits. -/
def natOf (ds : List Char) : Nat := ds.foldl (fun n c => n * 10 + (c.toNat - 48)) 0

/-- A significand of at most 64 bits with a decimal exponent; `full` once a digit did not
fit. -/
structure Scaled where
  significand : Nat
  exponent : Int
  full : Bool

/-- Takes in a digit in front of the point: once the significand is full, digits only scale. -/
def Scaled.pushWhole (s : Scaled) (c : Char) : Scaled :=
  let next := s.significand * 10 + (c.toNat - 48)
  if !s.full && next < UInt64.size then { s with significand := next }
  else { s with exponent := s.exponent + 1, full := true }

/-- Takes in a digit behind the point: the first that does not fit ends the significand. -/
def Scaled.pushFraction (s : Scaled) (c : Char) : Scaled :=
  let next := s.significand * 10 + (c.toNat - 48)
  if !s.full && next < UInt64.size then ⟨next, s.exponent - 1, false⟩ else { s with full := true }

/-- The significand and the decimal exponent without the written exponent. -/
def scaled (n : Numeral) : Scaled :=
  let s := n.whole.foldl Scaled.pushWhole ⟨0, 0, false⟩
  (n.fraction.getD []).foldl Scaled.pushFraction { s with full := false }

/-- Multiplies or divides non-negative bits by a power of ten of at most 10^308. -/
def scaleOnce (bits : Nat) (exponent : Int) : Nat :=
  let (num, den) := Double.fraction bits
  let (pnum, pden) := Double.fraction (Double.ofDecimal 1 exponent.natAbs)
  if 0 ≤ exponent then Double.nearest (num * pnum) (den * pden)
  else Double.nearest (num * pden) (den * pnum)

/-- The double for a significand scaled by a power of ten, or nothing if it is infinite. -/
def scale? (bits : Nat) (exponent : Int) : Nat → Option Nat
  | 0 => some 0
  | fuel + 1 =>
    if bits = 0 then some 0
    else if exponent.natAbs ≤ 308 then
      let r := scaleOnce bits exponent
      if r = Double.infinity then none else some r
    else if 0 ≤ exponent then none
    else scale? (scaleOnce bits (-308)) (exponent + 308) fuel

/-- The magnitude as a double. -/
def magnitude? (n : Numeral) : Option Nat :=
  let s := n.scaled
  let bits := Double.nearest s.significand 1
  match n.exponent with
  | none => scale? bits s.exponent 10
  | some (negative, ds) =>
    let e := natOf ds
    if Nat.pow 2 31 ≤ e then
      if s.significand ≠ 0 ∧ !negative then none else some 0
    else scale? bits (if negative then s.exponent - e else s.exponent + e) 10

/-- The sign bit of a double. -/
def signBit (negative : Bool) : Nat := if negative then Nat.pow 2 63 else 0

/-- The number that is meant, or nothing if it is past every double. -/
def value? (n : Numeral) : Option Number :=
  let m := natOf n.whole
  if n.fraction.isNone && n.exponent.isNone && !n.negative && m < UInt64.size then
    some (.integer m)
  else if n.fraction.isNone && n.exponent.isNone && n.negative && 0 < m && m ≤ Nat.pow 2 63 then
    some (.integer (-(m : Int)))
  else n.magnitude?.map fun bits => .float (bits + signBit n.negative).toUInt64

end Numeral
end BlueprintControl.Json
