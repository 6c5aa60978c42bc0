import BlueprintControl.Time.Stamp

/-!
# Reading time stamps

The reader follows RFC 3339 and is lenient: blanks may stand in front of every number and
separator, `T` may be a `t` or a space, years may carry a sign, and the offset is `Z`, `UTC` or
a signed number of hours and minutes.

## Main definitions

* `Stamp.number`: a run of digits, bounded in length.
* `Stamp.offset`: the offset from UTC in minutes.
* `Stamp.parse`: a whole stamp, moved to UTC.
-/
namespace BlueprintControl.Stamp

/-- The value of a decimal digit. -/
def digitValue? (c : Char) : Option Nat :=
  if '0' ≤ c ∧ c ≤ '9' then some (c.toNat - '0'.toNat) else none

/-- Largest number a run of digits may stand for. -/
def numberLimit : Nat := Nat.pow 2 63

/-- Continues a number with at most `width` digits. -/
def digits (width acc : Nat) (cs : List Char) : Except Unreadable (Nat × List Char) :=
  match width, cs with
  | 0, cs => .ok (acc, cs)
  | _, [] => .ok (acc, [])
  | width + 1, c :: rest =>
    match digitValue? c with
    | none => .ok (acc, c :: rest)
    | some d =>
      if acc * 10 + d < numberLimit then digits width (acc * 10 + d) rest
      else .error .outOfRange

/-- One to `width` digits. -/
def number (width : Nat) (cs : List Char) : Except Unreadable (Nat × List Char) :=
  match cs with
  | [] => .error .tooShort
  | c :: _ => if (digitValue? c).isSome then digits width 0 cs else .error .invalid

/-- A number between two bounds, after blanks. -/
def bounded (width low high : Nat) (cs : List Char) : Except Unreadable (Nat × List Char) := do
  let (n, rest) ← number width (Text.trimStart cs)
  if low ≤ n ∧ n ≤ high then return (n, rest) else throw .outOfRange

/-- A year, if 32 bits hold it. -/
def checkedYear (n : Int) (rest : List Char) : Except Unreadable (Int × List Char) :=
  if -(Nat.pow 2 31 : Int) ≤ n ∧ n < Nat.pow 2 31 then .ok (n, rest) else .error .outOfRange

/-- A year: four digits, or any number of them behind a sign. -/
def year (cs : List Char) : Except Unreadable (Int × List Char) :=
  match Text.trimStart cs with
  | '-' :: rest => do
    let (n, rest) ← number rest.length rest
    checkedYear (-(n : Int)) rest
  | '+' :: rest => do
    let (n, rest) ← number rest.length rest
    checkedYear n rest
  | cs => do
    let (n, rest) ← number 4 cs
    checkedYear n rest

/-- A separator, after blanks. -/
def separator (c : Char) (cs : List Char) : Except Unreadable (List Char) :=
  match Text.trimStart cs with
  | [] => .error .tooShort
  | d :: rest => if c = d then .ok rest else .error .invalid

/-- The digits behind a decimal point as nanoseconds; digits past the ninth are dropped. -/
def fraction (cs : List Char) : Except Unreadable (Nat × List Char) := do
  let (n, rest) ← number 9 cs
  let used := cs.length - rest.length
  return (n * Nat.pow 10 (9 - used), rest.dropWhile (fun c => (digitValue? c).isSome))

/-- Nanoseconds, if a decimal point follows. -/
def fraction? (cs : List Char) : Except Unreadable (Nat × List Char) :=
  match cs with
  | '.' :: rest => fraction rest
  | cs => .ok (0, cs)

/-- How many octets the text takes in UTF-8. -/
def octets (cs : List Char) : Nat := cs.foldl (fun n c => n + c.utf8Size) 0

/-- Two digits, the first of them at most five when `sixty` is set. -/
def twoDigits (sixty : Bool) (cs : List Char) : Except Unreadable (Nat × List Char) :=
  match cs with
  | a :: b :: rest =>
    match digitValue? a, digitValue? b with
    | some x, some y =>
      if sixty ∧ 6 ≤ x then .error .outOfRange else .ok (x * 10 + y, rest)
    | _, _ => .error .invalid
  | cs => if octets cs < 2 then .error .tooShort else .error .invalid

/-- Hours and minutes of an offset, as minutes. -/
def offsetParts (cs : List Char) : Except Unreadable (Nat × List Char) := do
  let (hours, rest) ← twoDigits false cs
  let rest := rest.dropWhile (fun c => c == ':' || Text.isBlank c)
  let (minutes, rest) ← twoDigits true rest
  return (hours * 60 + minutes, rest)

/-- The offset from UTC in minutes. -/
def offset (cs : List Char) : Except Unreadable (Int × List Char) :=
  match cs with
  | [] => .error .tooShort
  | c :: rest =>
    if c = 'z' ∨ c = 'Z' then .ok (0, rest)
    else if c = '+' then do
      let (n, rest) ← offsetParts rest
      return (n, rest)
    else if c = '-' ∨ c = '−' then do
      let (n, rest) ← offsetParts rest
      return (-(n : Int), rest)
    else if (String.ofList (cs.take 3)).toLower = "utc" then .ok (0, cs.drop 3)
    else .error .invalid

/-- The moment with the given wall time at an offset of that many minutes. -/
def shift (day : Day) (minuteOfDay : Nat) (offset : Int) (second : Fin 61)
    (nano : Fin 1000000000) : Except Unreadable Stamp :=
  let minutes : Int := minuteOfDay - offset
  let day? := if minutes < 0 then day.previous? else if 1440 ≤ minutes then day.next? else some day
  match day? with
  | none => .error .impossible
  | some day =>
    let m := (minutes % 1440).toNat
    if h : m / 60 < 24 then
      .ok ⟨day, ⟨m / 60, h⟩, ⟨m % 60, Nat.mod_lt _ (by decide)⟩, second, nano⟩
    else .error .impossible

/-- Reads a date, a time of day and an offset. -/
def parse (text : String) : Except Unreadable Stamp := do
  let (y, cs) ← year text.toList
  let cs ← separator '-' cs
  let (month, cs) ← bounded 2 1 12 cs
  let cs ← separator '-' cs
  let (day, cs) ← bounded 2 1 31 cs
  let cs ← match cs with
    | [] => throw .tooShort
    | c :: rest => if c = 't' ∨ c = 'T' ∨ c = ' ' then pure rest else throw .invalid
  let (hour, cs) ← bounded 2 0 23 cs
  let cs ← separator ':' cs
  let (minute, cs) ← bounded 2 0 59 cs
  let cs ← separator ':' cs
  let (second, cs) ← bounded 2 0 60 cs
  let (nano, cs) ← fraction? cs
  let (shiftBy, cs) ← offset (Text.trimStart cs)
  if !(Text.trimStart cs).isEmpty then throw .tooLong
  match Day.ofParts? y month day with
  | none => throw .outOfRange
  | some date =>
    if 1440 ≤ shiftBy.natAbs then throw .outOfRange
    if hs : second < 61 then
      if hn : nano < 1000000000 then
        shift date (hour * 60 + minute) shiftBy ⟨second, hs⟩ ⟨nano, hn⟩
      else throw .outOfRange
    else throw .outOfRange

end BlueprintControl.Stamp
