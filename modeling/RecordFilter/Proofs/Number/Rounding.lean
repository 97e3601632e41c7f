import Mathlib.Algebra.Order.Field.Power
import Mathlib.Tactic.GCongr
import Mathlib.Tactic.Linarith
import Mathlib.Tactic.Positivity
import RecordFilter.Number.Binary64
import RecordFilter.Proofs.Number.Decimal

/-!
# `RecordFilter.Proofs.Number.Rounding`: which numbers round to a binary64 number

The greatest binary64 number is `(2 ^ 53 - 1) * 2 ^ 971`. Half way from there to `2 ^ 1024` lies
`Numeral.overflow`, where a tie goes to the even significand, that of `2 ^ 1024`. So exactly the
magnitudes below the overflow have a nearest number.

* `Binary64.ofRatio?_eq_none_iff`: rounding a quotient fails from the overflow on.
* `Numeral.isFinite_iff`: the test of a numeral against the overflow is exact, also where it
  computes no power.
-/

set_option autoImplicit false

namespace RecordFilter

/-! ### Powers of a base over a common denominator -/

/-- A power with an integer exponent is a quotient of two with natural exponents. -/
theorem zpow_mul_pow_toNat_neg {b : ℚ} (hb : b ≠ 0) (k : Int) :
    b ^ k * b ^ (-k).toNat = b ^ k.toNat := by
  rw [← zpow_natCast, ← zpow_natCast, ← zpow_add₀ hb]
  congr 1
  omega

/-- Scaling a quotient by a power, on the side where the exponent is not negative. -/
theorem mul_le_scaled_iff (x : ℚ) {b : Nat} (hb : 0 < b) (k : Int) (num den : Nat) :
    x * ((den * Nat.pow b k.toNat : Nat) : ℚ) ≤ ((num * Nat.pow b (-k).toNat : Nat) : ℚ) ↔
      x * b ^ k * den ≤ num := by
  have hb : (0 : ℚ) < b := by exact_mod_cast hb
  have hscale := zpow_mul_pow_toNat_neg hb.ne' k
  have hpos : (0 : ℚ) < b ^ (-k).toNat := by positivity
  -- The power on the right can be taken off both sides.
  refine Iff.trans ?_ (mul_le_mul_iff_of_pos_right hpos)
  simp only [Nat.pow_eq, Nat.cast_mul, Nat.cast_pow, ← hscale]
  rw [show x * (den * ((b : ℚ) ^ k * b ^ (-k).toNat)) = x * b ^ k * den * b ^ (-k).toNat by ring]

/-- The strict comparison from the other side. -/
theorem scaled_lt_mul_iff (x : ℚ) {b : Nat} (hb : 0 < b) (k : Int) (num den : Nat) :
    ((num * Nat.pow b (-k).toNat : Nat) : ℚ) < x * ((den * Nat.pow b k.toNat : Nat) : ℚ) ↔
      num < x * b ^ k * den :=
  lt_iff_lt_of_le_iff_le (mul_le_scaled_iff x hb k num den)

namespace Binary64

variable {num den : Nat}

/-! ### The exponent of a quotient -/

/-- The quotient lies between two neighbouring powers of two. -/
theorem floorLog2_spec (hnum : 0 < num) (hden : 0 < den) :
    2 ^ floorLog2 num den * (den : ℚ) ≤ num ∧ (num : ℚ) < 2 ^ (floorLog2 num den + 1) * den := by
  have hnumLow : ((2 : ℚ) ^ (num.log2 : Int)) ≤ num := by
    rw [zpow_natCast]
    exact_mod_cast Nat.log2_self_le hnum.ne'
  have hnumHigh : (num : ℚ) < 2 ^ ((num.log2 : Int) + 1) := by
    exact_mod_cast Nat.lt_log2_self
  have hdenLow : ((2 : ℚ) ^ (den.log2 : Int)) ≤ den := by
    rw [zpow_natCast]
    exact_mod_cast Nat.log2_self_le hden.ne'
  have hdenHigh : (den : ℚ) < 2 ^ ((den.log2 : Int) + 1) := by
    exact_mod_cast Nat.lt_log2_self
  have hadd : ∀ k l : Int, (2 : ℚ) ^ k * 2 ^ l = 2 ^ (k + l) := fun k l =>
    (zpow_add₀ (by norm_num) k l).symm
  -- The difference of the two logarithms is right, or one too great.
  have htest := mul_le_scaled_iff 1 (show 0 < 2 by decide) ((num.log2 : Int) - den.log2) num den
  simp only [one_mul, Nat.cast_le, Nat.cast_ofNat] at htest
  unfold floorLog2
  simp only
  generalize (num.log2 : Int) = a at *
  generalize (den.log2 : Int) = b at *
  split
  · rename_i hle
    refine ⟨htest.mp hle, ?_⟩
    calc (num : ℚ) < 2 ^ (a + 1) := hnumHigh
      _ = 2 ^ (a - b + 1) * 2 ^ b := by rw [hadd]; congr 1; ring
      _ ≤ 2 ^ (a - b + 1) * den := by gcongr
  · rename_i hlt
    rw [htest, not_le] at hlt
    refine ⟨?_, by rwa [sub_add_cancel]⟩
    calc (2 : ℚ) ^ (a - b - 1) * den ≤ 2 ^ (a - b - 1) * 2 ^ (b + 1) := by gcongr
      _ = 2 ^ a := by rw [hadd]; congr 1; ring
      _ ≤ num := hnumLow

/-! ### Rounding to a natural number -/

/-- An even number is reached from half a unit below it. -/
theorem le_roundHalfEven_iff {k : Nat} (hk : 0 < k) (heven : k % 2 = 0) (hden : 0 < den) :
    k ≤ roundHalfEven num den ↔ ((k : ℚ) - 1 / 2) * den ≤ num := by
  have hnum := Nat.div_add_mod num den
  have hr := Nat.mod_lt num hden
  have hcast : ((k : ℚ) - 1 / 2) * den ≤ num ↔ 2 * (den * k) ≤ 2 * num + den := by
    rw [← Nat.cast_le (α := ℚ)]
    push_cast
    constructor <;> intro h <;> linarith
  rw [hcast]
  unfold roundHalfEven
  simp only
  generalize num / den = q at *
  generalize num % den = r at *
  -- The product with the quotient is compared with that of the number and its predecessors.
  rcases Nat.lt_trichotomy (q + 1) k with hlt | heq | hgt
  · have hle : den * (q + 2) ≤ den * k := Nat.mul_le_mul_left _ (by omega)
    rw [Nat.mul_add] at hle
    split_ifs <;> omega
  · subst heq
    rw [Nat.mul_add]
    split_ifs <;> omega
  · have hle : den * k ≤ den * q := Nat.mul_le_mul_left _ (by omega)
    split_ifs <;> omega

/-- Rounding goes up by one at most. -/
theorem roundHalfEven_le {k : Nat} (h : num < k * den) : roundHalfEven num den ≤ k := by
  have hq : num / den < k := Nat.div_lt_of_lt_mul (by rwa [Nat.mul_comm])
  unfold roundHalfEven
  simp only
  split_ifs <;> omega

/-! ### Overflow -/

/-- The overflow as a rational number. -/
theorem cast_overflow : ((Numeral.overflow : Nat) : ℚ) = 2 ^ 1024 - 2 ^ 970 := by
  have hle : 970 ≤ 1024 := by decide
  unfold Numeral.overflow
  -- For any two exponents, so that the powers are not computed.
  generalize 1024 = l at *
  generalize 970 = k at *
  have hpow : Nat.pow 2 k ≤ Nat.pow 2 l := Nat.pow_le_pow_right (by decide) hle
  rw [Nat.cast_sub hpow, Nat.pow_eq, Nat.pow_eq, Nat.cast_pow, Nat.cast_pow]
  rfl

/-- The overflow lies half a unit below the first significand that is too great. -/
theorem cast_overflow_eq : ((Numeral.overflow : Nat) : ℚ) = (2 ^ 53 - 1 / 2) * 2 ^ (971 : Int) := by
  have hunit : (2 : ℚ) ^ (971 : Int) = 2 ^ 970 * 2 := by
    rw [show (971 : Int) = ((970 + 1 : Nat) : Int) by decide, zpow_natCast, pow_succ]
  have htop : (2 : ℚ) ^ 1024 = 2 ^ 970 * 2 ^ 54 := by
    rw [← pow_add]
  rw [cast_overflow, hunit, htop]
  generalize (2 : ℚ) ^ 970 = unit
  ring

/-- Zero does not overflow. -/
theorem overflow_pos : (0 : ℚ) < Numeral.overflow := by
  rw [cast_overflow_eq]
  exact mul_pos (by norm_num) (zpow_pos (by norm_num) _)

/-- There is a number for each significand and exponent that are canonical together. -/
theorem make?_eq_none_iff {negative : Bool} {m : Nat} {e : Int} :
    make? negative m e = none ↔ ¬ IsCanonical m e := by
  unfold make?
  split <;> simp [*]

/-- The exponent that a quotient is rounded with. -/
def unitExponent (num den : Nat) : Int :=
  max (-1074) (floorLog2 num den - 52)

/-- In units of this exponent the quotient has at most 53 binary places before the point, and no
less unless the exponent is the least of all. -/
structure HasExponent (num den : Nat) (e : Int) : Prop where
  least : -1074 ≤ e
  high : (num : ℚ) < 2 ^ 53 * 2 ^ e * den
  low : -1074 < e → 2 ^ 52 * 2 ^ e * (den : ℚ) ≤ num

/-- The exponent that a quotient is rounded with suits it. -/
theorem hasExponent (hnum : 0 < num) (hden : 0 < den) :
    HasExponent num den (unitExponent num den) := by
  obtain ⟨hlow, hhigh⟩ := floorLog2_spec hnum hden
  unfold unitExponent
  generalize floorLog2 num den = l at hlow hhigh
  have hadd : ∀ (k : Nat) (m : Int), (2 : ℚ) ^ k * 2 ^ m = 2 ^ (k + m) := by
    intro k m
    rw [← zpow_natCast, zpow_add₀ (by norm_num)]
  refine ⟨by omega, ?_, fun hne => ?_⟩
  · have hle : (2 : ℚ) ^ (l + 1) ≤ 2 ^ (((53 : Nat) : Int) + max (-1074) (l - 52)) :=
      zpow_le_zpow_right₀ (by norm_num) (by omega)
    rw [hadd]
    exact hhigh.trans_le (mul_le_mul_of_nonneg_right hle (Nat.cast_nonneg _))
  · rw [hadd, show ((52 : Nat) : Int) + max (-1074) (l - 52) = l by omega]
    exact hlow

/-- The significand of a quotient in units of an exponent. -/
def significandIn (e : Int) (num den : Nat) : Nat :=
  roundHalfEven (num * Nat.pow 2 (-e).toNat) (den * Nat.pow 2 e.toNat)

/-- An even significand is reached from half a unit below it. -/
theorem le_significandIn_iff {e : Int} {k : Nat} (hk : 0 < k) (heven : k % 2 = 0)
    (hden : 0 < den) :
    k ≤ significandIn e num den ↔ ((k : ℚ) - 1 / 2) * 2 ^ e * den ≤ num := by
  have hunit : 0 < den * Nat.pow 2 e.toNat := Nat.mul_pos hden (Nat.pow_pos (by decide))
  rw [significandIn, le_roundHalfEven_iff hk heven hunit, mul_le_scaled_iff _ (by decide)]
  rfl

namespace HasExponent

variable {e : Int}

/-- Rounding reaches the next power of two at most. -/
theorem significandIn_le (h : HasExponent num den e) :
    significandIn e num den ≤ Nat.pow 2 53 := by
  refine roundHalfEven_le ?_
  have hlt := (scaled_lt_mul_iff (2 ^ 53) (show 0 < 2 by decide) e num den).mpr h.high
  exact_mod_cast hlt

/-- Above the least exponent the significand has all its 53 places. -/
theorem le_significandIn (h : HasExponent num den e) (hden : 0 < den) (he : -1074 < e) :
    Nat.pow 2 52 ≤ significandIn e num den := by
  have hlow := h.low he
  refine (le_significandIn_iff (by decide) (by decide) hden).mpr ?_
  refine le_trans ?_ hlow
  gcongr
  norm_num

end HasExponent

/-- The nearest number has the significand of the quotient, with a carry into the exponent where
this is `2 ^ 53`. -/
theorem ofRatio?_eq (negative : Bool) (hnum : num ≠ 0) :
    ofRatio? negative num den =
      if significandIn (unitExponent num den) num den = Nat.pow 2 53 then
        make? negative (Nat.pow 2 52) (unitExponent num den + 1)
      else make? negative (significandIn (unitExponent num den) num den)
        (unitExponent num den) := by
  rw [ofRatio?, if_neg hnum]
  rfl

/-- Rounding fails where the exponent is too great, or is so after a carry. -/
theorem ofRatio?_eq_none_iff_exponent (negative : Bool) (hnum : 0 < num) (hden : 0 < den) :
    ofRatio? negative num den = none ↔ 971 < unitExponent num den ∨
      unitExponent num den = 971 ∧
        Nat.pow 2 53 ≤ significandIn (unitExponent num den) num den := by
  have h := hasExponent hnum hden
  have hhigh := h.significandIn_le
  have hlow := h.le_significandIn hden
  have hleast := h.least
  have hpow : Nat.pow 2 52 < Nat.pow 2 53 := by decide
  rw [ofRatio?_eq negative hnum.ne']
  generalize significandIn (unitExponent num den) num den = m at hhigh hlow
  split
  · rw [make?_eq_none_iff, IsCanonical]
    omega
  · rw [make?_eq_none_iff, IsCanonical]
    omega

/-- A quotient has no nearest number exactly from the overflow on. -/
theorem ofRatio?_eq_none_iff (negative : Bool) (hden : 0 < den) :
    ofRatio? negative num den = none ↔ (Numeral.overflow : ℚ) * den ≤ num := by
  have hdenQ : (0 : ℚ) < den := by exact_mod_cast hden
  rcases Nat.eq_zero_or_pos num with rfl | hnum
  · refine iff_of_false ?_ (not_le.mpr ?_)
    · rw [ofRatio?, if_pos rfl]
      nofun
    · rw [Nat.cast_zero]
      exact mul_pos overflow_pos hdenQ
  have h := hasExponent hnum hden
  rw [ofRatio?_eq_none_iff_exponent negative hnum hden, cast_overflow_eq]
  generalize unitExponent num den = e at h
  rcases lt_trichotomy e 971 with hlt | rfl | hgt
  · -- The significand would have to be half of what it is in the units of the overflow.
    refine iff_of_false (by omega) (not_le.mpr (h.high.trans_le ?_))
    have hle : (2 : ℚ) ^ e ≤ 2 ^ (970 : Int) := zpow_le_zpow_right₀ (by norm_num) (by omega)
    rw [show (2 : ℚ) ^ (971 : Int) = 2 ^ (970 : Int) * 2 from zpow_add_one₀ (by norm_num) 970]
    refine mul_le_mul_of_nonneg_right ?_ hdenQ.le
    have hpos : (0 : ℚ) < 2 ^ (970 : Int) := zpow_pos (by norm_num) _
    generalize (2 : ℚ) ^ (970 : Int) = unit at *
    generalize (2 : ℚ) ^ e = small at *
    linarith
  · -- The tie half way to the next significand goes up to it.
    have hcarry : Nat.pow 2 53 ≤ significandIn 971 num den ↔ _ :=
      le_significandIn_iff (by decide) (by decide) hden
    rw [show ((Nat.pow 2 53 : Nat) : ℚ) = 2 ^ 53 by norm_num] at hcarry
    rw [hcarry]
    simp
  · refine iff_of_true (.inl hgt) (le_trans ?_ (h.low (by omega)))
    have hle : (2 : ℚ) ^ ((971 : Int) + 1) ≤ 2 ^ e := zpow_le_zpow_right₀ (by norm_num) (by omega)
    rw [zpow_add_one₀ (by norm_num)] at hle
    refine mul_le_mul_of_nonneg_right ?_ hdenQ.le
    have hpos : (0 : ℚ) < 2 ^ (971 : Int) := zpow_pos (by norm_num) _
    generalize (2 : ℚ) ^ (971 : Int) = unit at *
    generalize (2 : ℚ) ^ e = great at *
    linarith

end Binary64

namespace Numeral

/-! ### Numerals with a finite value -/

/-- The sign of a numeral does not change its size. -/
theorem abs_value (n : Numeral) : |n.value| = n.coefficient * 10 ^ n.exponent := by
  have hpos : (0 : ℚ) ≤ n.coefficient * 10 ^ n.exponent := by positivity
  unfold value
  split
  · rw [neg_one_mul, abs_neg, abs_of_nonneg hpos]
  · rw [one_mul, abs_of_nonneg hpos]

/-- The two sides of the exact test, which has the power on the side where it is natural. -/
theorem scaled_lt_iff (coefficient bound : Nat) (e : Int) :
    coefficient * Nat.pow 10 e.toNat < bound * Nat.pow 10 (-e).toNat ↔
      (coefficient : ℚ) * 10 ^ e < bound := by
  have hscale := zpow_mul_pow_toNat_neg (show (10 : ℚ) ≠ 0 by norm_num) e
  have hpos : (0 : ℚ) < 10 ^ (-e).toNat := by positivity
  rw [← Nat.cast_lt (α := ℚ)]
  refine Iff.trans ?_ (mul_lt_mul_iff_of_pos_right hpos)
  simp only [Nat.pow_eq, Nat.cast_mul, Nat.cast_pow, Nat.cast_ofNat, mul_assoc, hscale]

/-- The exact test where the power stands with the coefficient. -/
theorem scaled_lt_iff_of_nonneg (coefficient bound : Nat) {e : Int} (he : 0 ≤ e) :
    coefficient * Nat.pow 10 e.toNat < bound ↔ (coefficient : ℚ) * 10 ^ e < bound := by
  rw [← scaled_lt_iff, show (-e).toNat = 0 by omega, show Nat.pow 10 0 = 1 from rfl, Nat.mul_one]

/-- The exact test where the power stands with the bound. -/
theorem lt_scaled_iff_of_neg (coefficient bound : Nat) {e : Int} (he : e < 0) :
    coefficient < bound * Nat.pow 10 (-e).toNat ↔ (coefficient : ℚ) * 10 ^ e < bound := by
  rw [← scaled_lt_iff, show e.toNat = 0 by omega, show Nat.pow 10 0 = 1 from rfl, Nat.mul_one]

/-- A number with no more digits than it has places is less than one. -/
theorem coefficient_mul_lt_one {coefficient : Nat} {e : Int}
    (h : (Nat.toDigits 10 coefficient).length ≤ (-e).toNat) :
    (coefficient : ℚ) * 10 ^ e < 1 := by
  have hdigits : ∀ c ∈ Nat.toDigits 10 coefficient, c.isDigit = true := fun c hc =>
    Nat.isDigit_of_mem_toDigits (by decide) (by decide) hc
  have hlt := ofDigitChars_lt hdigits
  rw [Nat.ofDigitChars_ten_toDigits] at hlt
  have hplaces : coefficient < 10 ^ (-e).toNat :=
    hlt.trans_le (Nat.pow_le_pow_right (by decide) h)
  have hsome : 0 < (Nat.toDigits 10 coefficient).length :=
    List.length_pos_iff.mpr Nat.toDigits_ne_nil
  have hone := (lt_scaled_iff_of_neg coefficient 1 (show e < 0 by omega)).mp
    (by simpa using hplaces)
  rwa [Nat.cast_one] at hone

/-- A number with more than 309 digits is beyond the overflow. -/
theorem overflow_le_of_exponent {coefficient : Nat} {e : Int} (hcoefficient : coefficient ≠ 0)
    (he : 308 < e) : (overflow : ℚ) ≤ coefficient * 10 ^ e := by
  have hone : (1 : ℚ) ≤ coefficient := by exact_mod_cast Nat.one_le_iff_ne_zero.mpr hcoefficient
  have hpow : (10 : ℚ) ^ ((309 : Nat) : Int) ≤ 10 ^ e :=
    zpow_le_zpow_right₀ (by norm_num) (by omega)
  have htop : overflow ≤ 10 ^ 309 := by decide +kernel
  calc (overflow : ℚ) ≤ 10 ^ ((309 : Nat) : Int) := by
        rw [zpow_natCast]
        exact_mod_cast htop
    _ ≤ 1 * 10 ^ e := by rwa [one_mul]
    _ ≤ coefficient * 10 ^ e := by gcongr

/-- The magnitude of a numeral is compared with the overflow exactly. -/
theorem isFinite_iff (n : Numeral) : n.isFinite = true ↔ |n.value| < 2 ^ 1024 - 2 ^ 970 := by
  rw [abs_value, ← Binary64.cast_overflow]
  unfold isFinite
  split
  · rename_i hzero
    refine iff_of_true rfl ?_
    rw [hzero, Nat.cast_zero, zero_mul]
    exact Binary64.overflow_pos
  · rename_i hzero
    split
    · rename_i he
      -- A positive number with an exponent above 308 is too great, so no power is computed.
      rw [Bool.and_eq_true, decide_eq_true_eq, decide_eq_true_eq, scaled_lt_iff_of_nonneg _ _ he]
      refine ⟨fun h => h.2, fun h => ⟨?_, h⟩⟩
      by_contra hgreat
      exact absurd (overflow_le_of_exponent hzero (not_le.mp hgreat)) (not_le.mpr h)
    · rename_i he
      split
      · rename_i hplaces
        refine iff_of_true rfl ((coefficient_mul_lt_one hplaces).trans_le ?_)
        exact_mod_cast Nat.one_le_iff_ne_zero.mpr (by decide +kernel)
      · rw [decide_eq_true_eq, lt_scaled_iff_of_neg _ _ (not_le.mp he)]

end Numeral

end RecordFilter
