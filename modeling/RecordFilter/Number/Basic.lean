import RecordFilter.Number.Shortest

/-!
# `RecordFilter.Number.Basic`: the numbers of a document

A number is an integer in the range of 64 bit words, signed or unsigned, or a finite binary64
number. The two kinds stay apart: the float `100.0` is not the integer `100`, and its text has a
point.
-/

set_option autoImplicit false

namespace RecordFilter

/-- The integers that a signed or an unsigned word of 64 bits can hold: from `-2 ^ 63` and below
`2 ^ 64`. -/
def FitsWord (n : Int) : Prop :=
  -9223372036854775808 ≤ n ∧ n < 18446744073709551616

instance (n : Int) : Decidable (FitsWord n) := by
  unfold FitsWord; infer_instance

/-- An integer of word size, or a float. -/
inductive Number where
  | integer (value : Int) (fits : FitsWord value)
  | float (value : Binary64)
  deriving DecidableEq

namespace Number

/-- The integer as a number, if it has word size. -/
def ofInt? (n : Int) : Option Number :=
  if h : FitsWord n then some (.integer n h) else none

/-- The decimal digits of an integer, with a minus in front of a negative one. -/
def integerChars (n : Int) : List Char :=
  if n < 0 then '-' :: Nat.toDigits 10 n.natAbs else Nat.toDigits 10 n.natAbs

/-- The text of a number. -/
def text : Number → String
  | .integer n _ => String.ofList (integerChars n)
  | .float x => x.text

/-- The natural number that an integer is; a float is none, whatever its value. -/
def toNat? : Number → Option Nat
  | .integer n _ => if 0 ≤ n then some n.toNat else none
  | .float _ => none

end Number

end RecordFilter
