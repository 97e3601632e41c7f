import RecordFilter.Number.Basic
import RecordFilter.Number.Numeral

/-!
# `RecordFilter.Json.Numeral`: numbers in JSON text

`Json.numeral?` reads the characters of a JSON number. Without fraction and exponent, and in the
range of 64 bit words, the number is an integer; only `-0` is a float. Every other number is a
float, read from the digits that fit a word of 64 bits: this significand is rounded to binary64
and then multiplied or divided by the rounded power of ten, in binary64 arithmetic. A product
that overflows has no number.
-/

set_option autoImplicit false

namespace RecordFilter.Json

/-- The parts of a JSON number: sign, digits before and after the point, exponent, and whether
there is a point or an exponent at all. -/
structure NumeralParts where
  negative : Bool
  whole : List Char
  fraction : List Char
  exponent : Int
  isPlain : Bool

/-- The digits before the point: a zero alone, or digits that do not start with a zero. -/
def isWhole : List Char → Bool
  | [] => false
  | ['0'] => true
  | c :: cs => c != '0' && (c :: cs).all Char.isDigit

/-- The parts of the number that the characters spell. -/
def numeralParts? (cs : List Char) : Option NumeralParts :=
  let (negative, rest) := match cs with
    | '-' :: ds => (true, ds)
    | ds => (false, ds)
  let whole := rest.takeWhile Char.isDigit
  let rest := rest.dropWhile Char.isDigit
  let (fraction, tail) := Numeral.readFraction rest
  let hasPoint := rest.head? == some '.'
  if !isWhole whole || (hasPoint && fraction.isEmpty) then none
  else
    (Numeral.readExponent? tail).map fun e =>
      ⟨negative, whole, fraction, e, rest.isEmpty⟩

/-- Significands are below this limit, which is `2 ^ 64`. -/
def significandLimit : Nat :=
  18446744073709551616

/-- Appends digits to a significand while it stays below the limit; gives the significand and how
many digits were taken. -/
def appendDigits (significand : Nat) : List Char → Nat × Nat
  | [] => (significand, 0)
  | c :: cs =>
    if 10 * significand + Numeral.digitValue c < significandLimit then
      let longer := appendDigits (10 * significand + Numeral.digitValue c) cs
      (longer.1, longer.2 + 1)
    else (significand, 0)

/-- Divides by `10 ^ k`, by at most `10 ^ 308` at a time. -/
def scaleDown? (x : Binary64) (k : Nat) : Option Binary64 :=
  if k ≤ 308 then (Binary64.powerOfTen? k).bind x.div?
  else if x.isZero then some x
  else ((Binary64.powerOfTen? 308).bind x.div?).bind fun y => scaleDown? y (k - 308)
termination_by k
decreasing_by omega

/-- Multiplies by `10 ^ k`. Beyond `10 ^ 308` only zero has a result. -/
def scaleUp? (x : Binary64) (k : Nat) : Option Binary64 :=
  if k ≤ 308 then (Binary64.powerOfTen? k).bind x.mul?
  else if x.isZero then some x
  else none

/-- The float of a number's parts. -/
def NumeralParts.float? (p : NumeralParts) : Option Binary64 :=
  let (whole, taken) := appendDigits 0 p.whole
  let (significand, places) := appendDigits whole p.fraction
  let exponent : Int := (p.whole.length - taken : Nat) - (places : Int) + p.exponent
  (Binary64.ofNat? significand).bind fun x =>
    let magnitude := if 0 ≤ exponent then scaleUp? x exponent.toNat
      else scaleDown? x (-exponent).toNat
    magnitude.map fun y => if p.negative then y.neg else y

/-- The number of a number's parts; `none` where it is out of range. -/
def NumeralParts.number? (p : NumeralParts) : Option Number :=
  let n : Int := Numeral.natOfDigits p.whole
  let isNegativeZero := p.negative && n == 0
  match if p.isPlain && !isNegativeZero then Number.ofInt? (if p.negative then -n else n)
      else none with
  | some exact => some exact
  | none => p.float?.map Number.float

/-- Reads the characters of a JSON number. The outer `none` says that they spell none, the inner
one that the number is out of range. -/
def numeral? (cs : List Char) : Option (Option Number) :=
  (numeralParts? cs).map NumeralParts.number?

end RecordFilter.Json
