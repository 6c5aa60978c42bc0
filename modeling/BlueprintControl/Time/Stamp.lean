import BlueprintControl.Time.Span
import BlueprintControl.Text.Blank

/-!
# Time stamps

A `Stamp` is a date and a time of day in UTC, to the nanosecond, with room for a leap second.
Stamps are written in the RFC 3339 form with the shortest exact fraction.

## Main definitions

* `Day`, `Stamp`: a calendar date and a moment on it.
* `Stamp.render`: the written form, ending in `Z`.
* `Stamp.Unreadable`: why a text is no stamp.
-/
namespace BlueprintControl

/-- Whether the year is a leap year of the Gregorian calendar. -/
def isLeapYear (year : Int) : Bool :=
  year % 4 == 0 && (year % 100 != 0 || year % 400 == 0)

/-- Length of a month in days; zero for a number that names no month. -/
def daysIn (year : Int) (month : Nat) : Nat :=
  match month with
  | 1 | 3 | 5 | 7 | 8 | 10 | 12 => 31
  | 4 | 6 | 9 | 11 => 30
  | 2 => if isLeapYear year then 29 else 28
  | _ => 0

/-- First year that dates reach. -/
def firstYear : Int := -262143
/-- Last year that dates reach. -/
def lastYear : Int := 262142

/-- A date of the Gregorian calendar, as far as dates reach. -/
structure Day where
  year : Int
  month : Nat
  day : Nat
  year_mem : firstYear ≤ year ∧ year ≤ lastYear
  day_mem : 1 ≤ day ∧ day ≤ daysIn year month
  deriving DecidableEq

namespace Day

/-- The first day of 1970. -/
def epoch : Day := ⟨1970, 1, 1, by decide, by decide⟩

instance : Inhabited Day := ⟨epoch⟩

/-- A date, if year, month and day name one. -/
def ofParts? (year : Int) (month day : Nat) : Option Day :=
  if h : firstYear ≤ year ∧ year ≤ lastYear ∧ 1 ≤ day ∧ day ≤ daysIn year month then
    some ⟨year, month, day, ⟨h.1, h.2.1⟩, h.2.2⟩
  else none

@[simp] theorem ofParts?_self (d : Day) : ofParts? d.year d.month d.day = some d :=
  dif_pos ⟨d.year_mem.1, d.year_mem.2, d.day_mem⟩

/-- The day after, unless it is past the last year. -/
def next? (d : Day) : Option Day :=
  if d.day < daysIn d.year d.month then ofParts? d.year d.month (d.day + 1)
  else if d.month < 12 then ofParts? d.year (d.month + 1) 1
  else ofParts? (d.year + 1) 1 1

/-- The day before, unless it is ahead of the first year. -/
def previous? (d : Day) : Option Day :=
  if 1 < d.day then ofParts? d.year d.month (d.day - 1)
  else if 1 < d.month then ofParts? d.year (d.month - 1) (daysIn d.year (d.month - 1))
  else ofParts? (d.year - 1) 12 31

/-- The day a number of days later, as far as dates reach. -/
def later (d : Day) : Nat → Day
  | 0 => d
  | n + 1 => (d.next?.getD d).later n

end Day

/-- A date and a time of day in UTC. The second sixty is a leap second. -/
structure Stamp where
  day : Day
  hour : Fin 24
  minute : Fin 60
  second : Fin 61
  nano : Fin 1000000000
  deriving DecidableEq, Inhabited

/-- Decimal digits of a number, filled with zeros on the left up to a width. -/
def padded (width n : Nat) : List Char :=
  let digits := Nat.toDigits 10 n
  List.replicate (width - digits.length) '0' ++ digits

namespace Stamp

/-- The year: four digits, with a sign when it does not fit them. -/
def yearText (year : Int) : List Char :=
  if 0 ≤ year ∧ year ≤ 9999 then padded 4 year.toNat
  else if 0 ≤ year then '+' :: padded 4 year.toNat
  else '-' :: padded 4 year.natAbs

/-- Year, month and day with hyphens. -/
def dateText (s : Stamp) : List Char :=
  yearText s.day.year ++ '-' :: padded 2 s.day.month ++ '-' :: padded 2 s.day.day

/-- Hour, minute and second with colons. -/
def clockText (s : Stamp) : List Char :=
  padded 2 s.hour ++ ':' :: padded 2 s.minute ++ ':' :: padded 2 s.second

/-- The fraction of a second with 0, 3, 6 or 9 digits, whichever is the shortest exact one. -/
def fractionText (nano : Nat) : List Char :=
  if nano = 0 then []
  else if nano % 1000000 = 0 then '.' :: padded 3 (nano / 1000000)
  else if nano % 1000 = 0 then '.' :: padded 6 (nano / 1000)
  else '.' :: padded 9 nano

/-- The RFC 3339 form in UTC. -/
def render (s : Stamp) : String :=
  String.ofList (s.dateText ++ 'T' :: s.clockText ++ fractionText s.nano ++ ['Z'])

/-- Date and time of day for people. -/
def dateAndClock (s : Stamp) : String := String.ofList (s.dateText ++ ' ' :: s.clockText)

/-- Time of day for people. -/
def clock (s : Stamp) : String := String.ofList s.clockText

/-- The stamp a number of nanoseconds after the start of 1970. -/
def sinceEpoch (nanos : Nat) : Stamp :=
  let seconds := nanos / nanosPerSecond
  ⟨Day.epoch.later (seconds / 86400), Fin.ofNat 24 (seconds / 3600 % 24),
    Fin.ofNat 60 (seconds / 60 % 60), Fin.ofNat 61 (seconds % 60),
    Fin.ofNat 1000000000 (nanos % nanosPerSecond)⟩

/-- Why a text is no time stamp. -/
inductive Unreadable where
  | outOfRange
  | impossible
  | invalid
  | tooShort
  | tooLong
  deriving DecidableEq, Repr

/-- What is said of a text that is no time stamp. -/
def Unreadable.message : Unreadable → String
  | .outOfRange => "input is out of range"
  | .impossible => "no possible date and time matching input"
  | .invalid => "input contains invalid characters"
  | .tooShort => "premature end of input"
  | .tooLong => "trailing input"

end Stamp
end BlueprintControl
