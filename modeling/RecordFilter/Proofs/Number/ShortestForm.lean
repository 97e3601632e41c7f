import RecordFilter.Number.Shortest
import RecordFilter.Proofs.Number.Rounding

/-!
# `RecordFilter.Proofs.Number.ShortestForm`: how far the shortest digits are from the number

The shortest decimal form of `m * 2 ^ e` is taken from the interval of the numbers that round to
it, or is exact. The interval is stated over one denominator in natural numbers; here the same is
said in rational numbers.

* `Binary64.withinHalfUnit_shortest`: the shortest form differs from the number by half a unit of
  its last place at most, and by less when the significand is odd.
* `Binary64.shortest_lt_overflow`: so it stays below the overflow, also next to it.
-/

set_option autoImplicit false

namespace RecordFilter

/-- The number that a decimal form stands for. -/
def DecimalForm.value (d : DecimalForm) : ℚ :=
  d.coefficient * 10 ^ d.exponent

namespace Binary64

/-- The number differs from `m * 2 ^ e` by half a unit at most, and by less if `m` is odd. -/
structure WithinHalfUnit (m : Nat) (e : Int) (q : ℚ) : Prop where
  le : |q - m * 2 ^ e| ≤ 2 ^ e / 2
  lt : m % 2 = 1 → |q - m * 2 ^ e| < 2 ^ e / 2

/-- A product of a power of two is its numerator over its denominator. -/
theorem scaled_spec (m : Nat) (e : Int) : 0 < (scaled m e).2 ∧
    ((scaled m e).1 : ℚ) = m * 2 ^ e * (scaled m e).2 := by
  have hscale := zpow_mul_pow_toNat_neg (show (2 : ℚ) ≠ 0 by norm_num) e
  unfold scaled
  split
  · rename_i he
    rw [show (-e).toNat = 0 by omega, pow_zero, mul_one] at hscale
    refine ⟨Nat.one_pos, ?_⟩
    simp [hscale]
  · rename_i he
    rw [show e.toNat = 0 by omega, pow_zero] at hscale
    refine ⟨Nat.pow_pos (by decide), ?_⟩
    simp only [Nat.pow_eq, Nat.cast_pow, Nat.cast_ofNat, mul_assoc, hscale, mul_one]

/-- A decimal form lies in an interval when its number does, after both are multiplied by the
denominator of the interval. -/
theorem contains_iff {i : RoundingInterval} {d : DecimalForm} : i.contains d = true ↔
    if i.closed then (i.low : ℚ) ≤ d.value * i.denominator ∧ d.value * i.denominator ≤ i.high
    else (i.low : ℚ) < d.value * i.denominator ∧ d.value * i.denominator < i.high := by
  -- All three sides are multiplied by a power of ten, which makes the exponent natural.
  have hscale := zpow_mul_pow_toNat_neg (show (10 : ℚ) ≠ 0 by norm_num) d.exponent
  have hpos : (0 : ℚ) < 10 ^ (-d.exponent).toNat := by positivity
  have hpoint : ((d.coefficient * Nat.pow 10 d.exponent.toNat * i.denominator : Nat) : ℚ) =
      d.value * i.denominator * 10 ^ (-d.exponent).toNat := by
    unfold DecimalForm.value
    simp only [Nat.pow_eq, Nat.cast_mul, Nat.cast_pow, Nat.cast_ofNat, ← hscale]
    ring
  have hbound : ∀ n : Nat, ((n * Nat.pow 10 (-d.exponent).toNat : Nat) : ℚ) =
      n * 10 ^ (-d.exponent).toNat := by
    intro n
    simp only [Nat.pow_eq, Nat.cast_mul, Nat.cast_pow, Nat.cast_ofNat]
  unfold RoundingInterval.contains
  simp only [← Nat.cast_le (α := ℚ), ← Nat.cast_lt (α := ℚ), hpoint, hbound,
    mul_le_mul_iff_of_pos_right hpos, mul_lt_mul_iff_of_pos_right hpos]
  split <;> simp

/-- The ends of an interval are half a unit away, the lower one perhaps less. -/
structure EndsWithin (i : RoundingInterval) (m : Nat) (e : Int) : Prop where
  denominator_pos : 0 < i.denominator
  low : (m - 1 / 2) * 2 ^ e * (i.denominator : ℚ) ≤ i.low
  high : (i.high : ℚ) = (m + 1 / 2) * 2 ^ e * i.denominator
  closed : i.closed = (m % 2 == 0)

/-- The interval of a number ends half a unit away from it. Below a power of two the numbers lie
closer together, so there the lower end is nearer. -/
theorem endsWithin_interval (m : Nat) (e : Int) : EndsWithin (interval m e) m e := by
  obtain ⟨hden, hunit⟩ := scaled_spec 1 (e - 2)
  -- The ends are multiples of a quarter of a unit.
  have hquarter : (2 : ℚ) ^ e = 4 * 2 ^ (e - 2) := by
    rw [show (4 : ℚ) = 2 ^ (2 : Int) by norm_num, ← zpow_add₀ (by norm_num), add_sub_cancel]
  have hlow : ∀ below ≤ 2, 4 * (m : ℚ) - 2 ≤ ((4 * m - below : Nat) : ℚ) := by
    intro below hle
    have hcast : ((4 * m : Nat) : ℚ) ≤ ((4 * m - below + 2 : Nat) : ℚ) :=
      Nat.cast_le.mpr (by omega)
    push_cast at hcast
    linarith
  have hpos : (0 : ℚ) < 2 ^ (e - 2) := by positivity
  unfold interval
  refine ⟨hden, ?_, ?_, rfl⟩
  · simp only [Nat.cast_mul, hunit, Nat.cast_one, one_mul]
    rw [← mul_assoc, hquarter]
    refine mul_le_mul_of_nonneg_right ?_ (Nat.cast_nonneg _)
    calc ((m : ℚ) - 1 / 2) * (4 * 2 ^ (e - 2)) = (4 * m - 2) * 2 ^ (e - 2) := by ring
      _ ≤ _ := mul_le_mul_of_nonneg_right (hlow _ (by split <;> omega)) hpos.le
  · simp only [Nat.cast_mul, hunit, hquarter]
    push_cast
    ring

/-- What lies in the interval of `m * 2 ^ e` is within half a unit of it. -/
theorem withinHalfUnit_of_contains {m : Nat} {e : Int} {d : DecimalForm}
    (h : (interval m e).contains d = true) : WithinHalfUnit m e d.value := by
  have hends := endsWithin_interval m e
  rw [contains_iff, hends.closed, hends.high] at h
  have hden : (0 : ℚ) < (interval m e).denominator := Nat.cast_pos.mpr hends.denominator_pos
  have hlow := hends.low
  generalize ((interval m e).denominator : ℚ) = den at h hden hlow
  -- The bounds are those of the difference, whether the ends belong to the interval or not.
  cases hparity : m % 2 == 0 with
  | true =>
    rw [hparity, if_pos rfl] at h
    have hbelow := le_of_mul_le_mul_right (hlow.trans h.1) hden
    have habove := le_of_mul_le_mul_right h.2 hden
    refine ⟨abs_le.mpr ⟨by linarith, by linarith⟩, fun hodd => ?_⟩
    rw [beq_iff_eq, hodd] at hparity
    cases hparity
  | false =>
    rw [hparity, if_neg Bool.false_ne_true] at h
    have hbelow := lt_of_mul_lt_mul_right (hlow.trans_lt h.1) hden.le
    have habove := lt_of_mul_lt_mul_right h.2 hden.le
    have hlt : |d.value - m * 2 ^ e| < 2 ^ e / 2 := abs_lt.mpr ⟨by linarith, by linarith⟩
    exact ⟨hlt.le, fun _ => hlt⟩

/-! ### The shortest form -/

/-- The neighbour that is taken from a grid lies in the interval. -/
theorem contains_of_onGrid? {i : RoundingInterval} {p : Int} {d : DecimalForm}
    (h : i.onGrid? p = some d) : i.contains d = true := by
  unfold RoundingInterval.onGrid? at h
  simp only at h
  split at h
  · -- The nearer one of two neighbours in the interval is one of them.
    rename_i hbelow habove
    cases h
    unfold roundHalfEven
    simp only
    split_ifs <;> assumption
  · rename_i hbelow _
    cases h
    exact hbelow
  · rename_i _ habove
    cases h
    exact habove
  · cases h

/-- The exact form stands for the number itself. -/
theorem value_exactForm (m : Nat) (e : Int) : (exactForm m e).value = m * 2 ^ e := by
  have hscale := zpow_mul_pow_toNat_neg (show (10 : ℚ) ≠ 0 by norm_num) e
  unfold exactForm DecimalForm.value
  split
  · rename_i he
    obtain ⟨k, rfl⟩ := Int.eq_ofNat_of_zero_le he
    simp
  · rename_i he
    obtain ⟨k, hk⟩ := Int.eq_ofNat_of_zero_le (show 0 ≤ -e by omega)
    obtain rfl : e = -(k : Int) := by omega
    simp only [neg_neg, Int.toNat_natCast, Nat.pow_eq, Nat.cast_mul, Nat.cast_pow,
      Nat.cast_ofNat, zpow_neg, zpow_natCast]
    rw [mul_assoc, show (10 : ℚ) = 5 * 2 by norm_num, mul_pow, mul_inv,
      mul_inv_cancel_left₀ (by positivity)]

/-- The shortest form is within half a unit of the number. -/
theorem withinHalfUnit_shortest (x : Binary64) :
    WithinHalfUnit x.significand x.exponent x.shortest.value := by
  unfold shortest
  simp only
  cases hfound : (List.range 17).findSome? fun (n : Nat) =>
      (interval x.significand x.exponent).onGrid? (floorLog10
        (interval x.significand x.exponent).value
        (interval x.significand x.exponent).denominator - (n : Int)) with
  | some d =>
    obtain ⟨n, -, hgrid⟩ := List.exists_of_findSome?_eq_some hfound
    exact withinHalfUnit_of_contains (contains_of_onGrid? hgrid)
  | none =>
    have hpos : (0 : ℚ) < 2 ^ x.exponent / 2 := by positivity
    rw [Option.getD_none]
    refine ⟨?_, fun _ => ?_⟩ <;> rw [value_exactForm, sub_self, abs_zero]
    · exact hpos.le
    · exact hpos

/-! ### Bounds -/

/-- What is within half a unit of a positive number is positive. -/
theorem WithinHalfUnit.pos {m : Nat} {e : Int} {q : ℚ} (h : WithinHalfUnit m e q) (hm : 0 < m) :
    0 < q := by
  have hone : (1 : ℚ) ≤ m := Nat.one_le_cast.mpr hm
  have hunit : (0 : ℚ) < 2 ^ e := by positivity
  have hle : (1 : ℚ) * 2 ^ e ≤ m * 2 ^ e := mul_le_mul_of_nonneg_right hone hunit.le
  have hlow := (abs_le.mp h.le).1
  linarith

/-- What is within half a unit of a number is below the overflow. The greatest significand is odd,
so that half a unit above the greatest number is out of reach. -/
theorem WithinHalfUnit.lt_overflow {m : Nat} {e : Int} {q : ℚ} (h : WithinHalfUnit m e q)
    (hcanonical : IsCanonical m e) : q < Numeral.overflow := by
  obtain ⟨hm, -, he, -⟩ := hcanonical
  have hunit : (0 : ℚ) < 2 ^ e := by positivity
  have hbelow : ∀ k : Nat, m + k ≤ 2 ^ 53 → (m : ℚ) * 2 ^ e + k * 2 ^ e ≤ 2 ^ 53 * 2 ^ e := by
    intro k hk
    have hcast : ((m + k : Nat) : ℚ) ≤ ((2 ^ 53 : Nat) : ℚ) := Nat.cast_le.mpr hk
    push_cast at hcast
    rw [← add_mul]
    exact mul_le_mul_of_nonneg_right hcast hunit.le
  have hm : m + 1 ≤ 2 ^ 53 := hm
  have hlt : q < (2 ^ 53 - 1 / 2) * 2 ^ e := by
    rcases Nat.mod_two_eq_zero_or_one m with heven | hodd
    · have hle := hbelow 2 (by omega)
      have hhigh := (abs_le.mp h.le).2
      rw [Nat.cast_ofNat] at hle
      linarith
    · have hle := hbelow 1 hm
      have hhigh := (abs_lt.mp (h.lt hodd)).2
      rw [Nat.cast_one] at hle
      linarith
  rw [cast_overflow_eq]
  refine hlt.trans_le (mul_le_mul_of_nonneg_left ?_ (by norm_num))
  exact zpow_le_zpow_right₀ (by norm_num) he

/-- The shortest form is below the overflow. -/
theorem shortest_lt_overflow (x : Binary64) : x.shortest.value < Numeral.overflow :=
  (withinHalfUnit_shortest x).lt_overflow x.canonical

end Binary64

end RecordFilter
