import RecordFilter.Number.Binary64

/-!
# `RecordFilter.Number.Shortest`: the shortest decimal digits of a binary64 number

The numbers that round to `m * 2 ^ e` form an interval around it, whose ends belong to it when
`m` is even. `Binary64.shortest` looks for the least count of significant digits that has a
decimal number in this interval, and of those with that count takes the one nearest to the
value, on a tie the one with an even last digit. On the grid of a digit count only the two
neighbours of the value have to be tried: if any point of the grid is in the interval, one of
the two is.

`Binary64.text` lays the digits out: positional with at least one place while the value is at
least `0.00001` and below `10 ^ 16`, and with a signed exponent otherwise.
-/

set_option autoImplicit false

namespace RecordFilter

/-- The decimal number `coefficient * 10 ^ exponent`. -/
structure DecimalForm where
  coefficient : Nat
  exponent : Int
  deriving DecidableEq

namespace Binary64

/-- The interval of the numbers that round to a value, over one denominator. -/
structure RoundingInterval where
  low : Nat
  value : Nat
  high : Nat
  denominator : Nat
  closed : Bool

/-- The interval of `m * 2 ^ e`. It reaches half way to the next number on both sides; below a
power of two the next number is half as far away, unless the exponent is the least one. -/
def interval (m : Nat) (e : Int) : RoundingInterval :=
  let below := if m = Nat.pow 2 52 ∧ -1074 < e then 1 else 2
  let unit := scaled 1 (e - 2)
  ⟨(4 * m - below) * unit.1, 4 * m * unit.1, (4 * m + 2) * unit.1, unit.2, m % 2 == 0⟩

/-- The greatest `k` with `10 ^ k ≤ num / den`, for positive `num` and `den`. -/
def floorLog10 (num den : Nat) : Int :=
  let k : Int := ((Nat.toDigits 10 num).length : Int) - (Nat.toDigits 10 den).length
  if den * Nat.pow 10 k.toNat ≤ num * Nat.pow 10 (-k).toNat then k else k - 1

/-- The decimal number lies in the interval. -/
def RoundingInterval.contains (i : RoundingInterval) (d : DecimalForm) : Bool :=
  let point := d.coefficient * Nat.pow 10 d.exponent.toNat * i.denominator
  let low := i.low * Nat.pow 10 (-d.exponent).toNat
  let high := i.high * Nat.pow 10 (-d.exponent).toNat
  if i.closed then decide (low ≤ point) && decide (point ≤ high)
  else decide (low < point) && decide (point < high)

/-- The neighbour of the value in the interval on the grid of step `10 ^ p`, the nearer one if
both are. -/
def RoundingInterval.onGrid? (i : RoundingInterval) (p : Int) : Option DecimalForm :=
  let num := i.value * Nat.pow 10 (-p).toNat
  let den := i.denominator * Nat.pow 10 p.toNat
  let below : DecimalForm := ⟨num / den, p⟩
  let above : DecimalForm := ⟨num / den + 1, p⟩
  match i.contains below, i.contains above with
  | true, true => some ⟨roundHalfEven num den, p⟩
  | true, false => some below
  | false, true => some above
  | false, false => none

/-- The exact decimal form of `m * 2 ^ e`. -/
def exactForm (m : Nat) (e : Int) : DecimalForm :=
  if 0 ≤ e then ⟨m * Nat.pow 2 e.toNat, 0⟩ else ⟨m * Nat.pow 5 (-e).toNat, e⟩

/-- The shortest decimal form of a positive number that rounds to it. Seventeen digits always
have one; the exact form closes the case distinction. -/
def shortest (x : Binary64) : DecimalForm :=
  let i := interval x.significand x.exponent
  let k := floorLog10 i.value i.denominator
  ((List.range 17).findSome? fun (n : Nat) => i.onGrid? (k - (n : Int))).getD
    (exactForm x.significand x.exponent)

/-- The least and greatest exponent of the first digit that are written by position. -/
structure PositionalRange where
  least : Int
  greatest : Int

/-- Numbers from `0.00001` up to below `10 ^ 16` are written by position. -/
def positional : PositionalRange :=
  ⟨-5, 15⟩

/-- The digits of a positive number laid out by position; `point` counts the digits in front of
the decimal point. At least one place is written. -/
def positionalText (digits : List Char) (point : Int) : List Char :=
  if point ≤ 0 then '0' :: '.' :: (List.replicate (-point).toNat '0' ++ digits)
  else
    let whole := digits.take point.toNat ++ List.replicate (point.toNat - digits.length) '0'
    let places := digits.drop point.toNat
    whole ++ '.' :: (if places.isEmpty then ['0'] else places)

/-- The digits of a positive number with the exponent of its first digit. -/
def exponentText (digits : List Char) (exponent : Int) : List Char :=
  let places := digits.drop 1
  let sign := if exponent < 0 then '-' else '+'
  digits.take 1 ++ (if places.isEmpty then [] else '.' :: places) ++
    'e' :: sign :: Nat.toDigits 10 exponent.natAbs

/-- The digits of a positive number and the count of those in front of the decimal point,
without the zeros at the end. -/
def layout (d : DecimalForm) : List Char :=
  let all := Nat.toDigits 10 d.coefficient
  let digits := (all.reverse.dropWhile (· == '0')).reverse
  let point : Int := all.length + d.exponent
  if positional.least ≤ point - 1 ∧ point - 1 ≤ positional.greatest then
    positionalText digits point
  else exponentText digits (point - 1)

/-- The text of a number: the shortest digits that read back as the number. -/
def text (x : Binary64) : String :=
  let magnitude := if x.isZero then ['0', '.', '0'] else layout x.shortest
  String.ofList (if x.negative then '-' :: magnitude else magnitude)

end Binary64

end RecordFilter
