/-!
# `RecordFilter.Number.Binary64`: finite binary64 numbers

A finite binary64 number is a sign, a significand `m` below `2 ^ 53` and an exponent `e`, and
stands for `m * 2 ^ e`. `IsCanonical` makes the pair unique: the significand is at least
`2 ^ 52` unless the exponent is the least one.

`Binary64.ofRatio?` rounds an exact quotient of natural numbers to the nearest number, a tie to
the even significand. It gives `none` where the nearest number would be infinite. Products and
quotients round their exact value, so all arithmetic is on natural numbers.
-/

set_option autoImplicit false

namespace RecordFilter

/-- The pairs of significand and exponent in use: each value has exactly one. -/
def IsCanonical (m : Nat) (e : Int) : Prop :=
  m < Nat.pow 2 53 ∧ -1074 ≤ e ∧ e ≤ 971 ∧ (Nat.pow 2 52 ≤ m ∨ e = -1074)

instance (m : Nat) (e : Int) : Decidable (IsCanonical m e) := by
  unfold IsCanonical; infer_instance

/-- A finite binary64 number; zero has both signs. -/
structure Binary64 where
  negative : Bool
  significand : Nat
  exponent : Int
  canonical : IsCanonical significand exponent
  deriving DecidableEq

namespace Binary64

/-- Zero of the given sign. -/
def zero (negative : Bool) : Binary64 :=
  ⟨negative, 0, -1074, by decide⟩

/-- The number is zero of either sign. -/
def isZero (x : Binary64) : Bool :=
  x.significand == 0

/-- The number of that sign, significand and exponent, if the pair is canonical. -/
def make? (negative : Bool) (m : Nat) (e : Int) : Option Binary64 :=
  if h : IsCanonical m e then some ⟨negative, m, e, h⟩ else none

/-- The exact value `m * 2 ^ e` as a quotient of natural numbers. -/
def scaled (m : Nat) (e : Int) : Nat × Nat :=
  if 0 ≤ e then (m * Nat.pow 2 e.toNat, 1) else (m, Nat.pow 2 (-e).toNat)

/-- The greatest `k` with `2 ^ k ≤ num / den`, for positive `num` and `den`. -/
def floorLog2 (num den : Nat) : Int :=
  let k : Int := (num.log2 : Int) - den.log2
  if den * Nat.pow 2 k.toNat ≤ num * Nat.pow 2 (-k).toNat then k else k - 1

/-- The natural number nearest to `num / den`, a tie to the even one. -/
def roundHalfEven (num den : Nat) : Nat :=
  let q := num / den
  let r := num % den
  if 2 * r < den then q
  else if den < 2 * r then q + 1
  else if q % 2 = 0 then q else q + 1

/-- The binary64 number nearest to `num / den`, for positive `den`. A significand that rounds up
to `2 ^ 53` moves to the next exponent. -/
def ofRatio? (negative : Bool) (num den : Nat) : Option Binary64 :=
  if num = 0 then some (zero negative)
  else
    let e := max (-1074) (floorLog2 num den - 52)
    let m := roundHalfEven (num * Nat.pow 2 (-e).toNat) (den * Nat.pow 2 e.toNat)
    if m = Nat.pow 2 53 then make? negative (Nat.pow 2 52) (e + 1) else make? negative m e

/-- The number nearest to a natural number. -/
def ofNat? (n : Nat) : Option Binary64 :=
  ofRatio? false n 1

/-- The number nearest to `10 ^ k`. -/
def powerOfTen? (k : Nat) : Option Binary64 :=
  ofNat? (Nat.pow 10 k)

/-- The number with the other sign. -/
def neg (x : Binary64) : Binary64 :=
  { x with negative := !x.negative }

/-- The number nearest to the exact product. -/
def mul? (x y : Binary64) : Option Binary64 :=
  let p := scaled (x.significand * y.significand) (x.exponent + y.exponent)
  ofRatio? (x.negative != y.negative) p.1 p.2

/-- The number nearest to the exact quotient by a number other than zero. -/
def div? (x y : Binary64) : Option Binary64 :=
  let p := scaled x.significand (x.exponent - y.exponent)
  ofRatio? (x.negative != y.negative) p.1 (p.2 * y.significand)

end Binary64

end RecordFilter
