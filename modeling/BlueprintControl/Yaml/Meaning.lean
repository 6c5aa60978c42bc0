import BlueprintControl.Schema.Format
import BlueprintControl.Text.Double
import BlueprintControl.Text.Quoted
import BlueprintControl.Yaml.Node

/-!
# What scalars stand for

A plain scalar is null, a boolean, a number or else a string; a quoted or block scalar is a
string. A tag of the standard set decides instead of the spelling.

## Main definitions

* `Meaning`: what a scalar can stand for.
* `integer?`, `float?`: the spellings of numbers.
* `Scalar.meaning?`: what a scalar stands for, unless its tag does not fit its text.
-/
namespace BlueprintControl.Yaml

/-- What a scalar stands for. -/
inductive Meaning where
  | null
  | bool (b : Bool)
  | integer (n : Int)
  | float (bits : UInt64)
  | string
  deriving DecidableEq, Repr

/-- Whether the word is one for null. -/
def isNullWord (cs : List Char) : Bool :=
  ["~", "null", "Null", "NULL"].contains (String.ofList cs)

/-- The boolean of a word. -/
def boolean? (cs : List Char) : Option Bool :=
  let s := String.ofList cs
  if ["true", "True", "TRUE"].contains s then some true
  else if ["false", "False", "FALSE"].contains s then some false
  else none

/-! ## Integers -/

/-- The value of a digit in a base up to sixteen. -/
def digitBelow? (base : Nat) (c : Char) : Option Nat :=
  (hexDigit? c).filter (· < base)

/-- The number with the given digits, of which there is at least one. -/
def natural? (base : Nat) (cs : List Char) : Option Nat :=
  if cs.isEmpty then none
  else cs.foldlM (fun n c => (digitBelow? base c).map fun d => n * base + d) 0

/-- A number without a sign: in base ten without leading zeros, or in another base behind its
mark. -/
def magnitude? (cs : List Char) : Option Nat :=
  match cs with
  | '0' :: 'x' :: rest => natural? 16 rest
  | '0' :: 'o' :: rest => natural? 8 rest
  | '0' :: 'b' :: rest => natural? 2 rest
  | '0' :: _ :: _ => none
  | cs => natural? 10 cs

/-- A natural number of 64 bits, with an optional plus sign. -/
def natural64? (cs : List Char) : Option Nat :=
  let body := match cs with
    | '+' :: rest => rest
    | cs => cs
  (magnitude? body).filter (· < UInt64.size)

/-- An integer of at most 128 bits. -/
def integer? (cs : List Char) : Option Int :=
  match cs with
  | '-' :: rest => ((magnitude? rest).filter (· ≤ Nat.pow 2 127)).map fun n => -(n : Int)
  | '+' :: rest => ((magnitude? rest).filter (· < Nat.pow 2 128)).map fun n => (n : Int)
  | cs => ((magnitude? cs).filter (· < Nat.pow 2 128)).map fun n => (n : Int)

/-- Whether an integer has 64 bits, with or without a sign. -/
def fits64 (n : Int) : Bool := -(Nat.pow 2 63 : Int) ≤ n && n < UInt64.size

/-! ## Floating-point numbers -/

/-- Whether the word is a sign and digits of which the first is a needless zero. -/
def hasLeadingZero (cs : List Char) : Bool :=
  let body := match cs with
    | '+' :: rest | '-' :: rest => rest
    | cs => cs
  1 < body.length && body.head? == some '0' && body.all isDigit

/-- The exponent, from its letter on. -/
def exponent? (cs : List Char) : Option Int :=
  match cs with
  | [] => some 0
  | x :: rest =>
    if x = 'e' ∨ x = 'E' then
      match rest with
      | '-' :: ds => (natural? 10 ds).map fun n => -(n : Int)
      | '+' :: ds => (natural? 10 ds).map fun n => (n : Int)
      | ds => (natural? 10 ds).map fun n => (n : Int)
    else none

/-- The bits of a decimal number without a sign: digits on one side of the point at least. -/
def decimal? (cs : List Char) : Option Nat := do
  let whole := cs.takeWhile isDigit
  let rest := cs.dropWhile isDigit
  let (fraction, rest) := match rest with
    | '.' :: rest => (rest.takeWhile isDigit, rest.dropWhile isDigit)
    | rest => ([], rest)
  let digits ← natural? 10 (whole ++ fraction)
  let e ← exponent? rest
  return Double.ofDecimal digits (e - fraction.length)

/-- A finite decimal number with an optional sign. -/
def finite? (cs : List Char) : Option Nat := do
  let (sign, body) := match cs with
    | '-' :: rest => (Nat.pow 2 63, rest)
    | '+' :: rest => (0, rest)
    | cs => (0, cs)
  let bits ← decimal? body
  if bits < Double.infinity then return sign + bits else none

/-- The bits of a floating-point number. -/
def float? (cs : List Char) : Option Nat :=
  let s := String.ofList cs
  if [".inf", ".Inf", ".INF", "+.inf", "+.Inf", "+.INF"].contains s then some Double.infinity
  else if ["-.inf", "-.Inf", "-.INF"].contains s then some (Nat.pow 2 63 + Double.infinity)
  else if [".nan", ".NaN", ".NAN"].contains s then some (Double.infinity + Nat.pow 2 51)
  else finite? cs

/-! ## Scalars -/

/-- What a plain word without a tag stands for. -/
def wordMeaning (cs : List Char) : Meaning :=
  if cs.isEmpty || isNullWord cs then .null
  else match boolean? cs with
    | some b => .bool b
    | none => match integer? cs with
      | some n => .integer n
      | none =>
        if hasLeadingZero cs then .string
        else match float? cs with
          | some bits => .float bits.toUInt64
          | none => .string

/-- The tag of the standard set with a given name. -/
def standardTag (name : String) : List Char := ("tag:yaml.org,2002:" ++ name).toList

/-- A scalar whose text does not fit its tag. -/
def unfitting (cs : List Char) (expected : String) : Fault :=
  .invalidValue ("string " ++ Text.quote (String.ofList cs)) expected

/-- What a scalar stands for. -/
def Scalar.meaning? (s : Scalar) : Except Fault Meaning :=
  match s.tag with
  | none => .ok (if s.style = .plain then wordMeaning s.text else .string)
  | some tag =>
    if tag = standardTag "bool" then
      match boolean? s.text with
      | some b => .ok (.bool b)
      | none => .error (unfitting s.text "a boolean")
    else if tag = standardTag "int" then
      match integer? s.text with
      | some n => .ok (.integer n)
      | none => .error (unfitting s.text "an integer")
    else if tag = standardTag "float" then
      match float? s.text with
      | some bits => .ok (.float bits.toUInt64)
      | none => .error (unfitting s.text "a float")
    else if tag = standardTag "null" then
      if isNullWord s.text then .ok .null else .error (unfitting s.text "null")
    else if tag.head? = some '!' ∧ s.style = .plain then .ok (wordMeaning s.text)
    else .ok .string

end BlueprintControl.Yaml
