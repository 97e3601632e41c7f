/-!
# `RecordFilter.Number.Numeral`: decimal numerals in text

A numeral is an optional sign, digits with an optional point, and an optional exponent. At least
one digit stands before or after the point. `Numeral.ofChars?` reads exactly these texts, and
`Numeral.isFinite` tells whether the value has a finite nearest binary64 number.
-/

set_option autoImplicit false

namespace RecordFilter

/-- A numeral: it stands for `coefficient * 10 ^ exponent`, with a sign. -/
structure Numeral where
  negative : Bool
  coefficient : Nat
  exponent : Int
  deriving DecidableEq

namespace Numeral

/-- The value of a decimal digit. -/
def digitValue (c : Char) : Nat :=
  c.toNat - 48

/-- The natural number that decimal digits spell. -/
def natOfDigits (digits : List Char) : Nat :=
  digits.foldl (fun n c => 10 * n + digitValue c) 0

/-- An optional sign in front: whether it is a minus, and the rest. -/
def readSign : List Char → Bool × List Char
  | '-' :: cs => (true, cs)
  | '+' :: cs => (false, cs)
  | cs => (false, cs)

/-- The digits of the fraction, if a point is in front, and the rest. -/
def readFraction : List Char → List Char × List Char
  | '.' :: cs => (cs.takeWhile Char.isDigit, cs.dropWhile Char.isDigit)
  | cs => ([], cs)

/-- The exponent at the end of a numeral, zero where there is none. -/
def readExponent? : List Char → Option Int
  | [] => some 0
  | c :: cs =>
    if c = 'e' ∨ c = 'E' then
      let (negative, digits) := readSign cs
      if digits.isEmpty || !digits.all Char.isDigit then none
      else if negative then some (-(natOfDigits digits : Int))
      else some (natOfDigits digits)
    else none

/-- The numeral that the characters spell, if they spell one. -/
def ofChars? (cs : List Char) : Option Numeral :=
  let (negative, rest) := readSign cs
  let whole := rest.takeWhile Char.isDigit
  let (fraction, rest) := readFraction (rest.dropWhile Char.isDigit)
  if whole.isEmpty && fraction.isEmpty then none
  else
    (readExponent? rest).map fun e =>
      ⟨negative, natOfDigits (whole ++ fraction), e - fraction.length⟩

/-- The least magnitude that rounds to infinity in binary64. -/
def overflow : Nat :=
  Nat.pow 2 1024 - Nat.pow 2 970

/-- The magnitude is below the overflow. A coefficient of at most `-exponent` digits gives less
than one, and a positive one with an exponent above 308 too much, so no great power is computed. -/
def isFinite (n : Numeral) : Bool :=
  if n.coefficient = 0 then true
  else if 0 ≤ n.exponent then
    decide (n.exponent ≤ 308) && decide (n.coefficient * Nat.pow 10 n.exponent.toNat < overflow)
  else if (Nat.toDigits 10 n.coefficient).length ≤ (-n.exponent).toNat then true
  else decide (n.coefficient < overflow * Nat.pow 10 (-n.exponent).toNat)

end Numeral

end RecordFilter
