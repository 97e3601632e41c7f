import RecordFilter.Number.Basic
import RecordFilter.Proofs.Number.FloatReading
import RecordFilter.Proofs.Number.ShortestForm
import RecordFilter.Proofs.Text.Trimming

/-!
# `RecordFilter.Proofs.Number.NumberText`: the texts of numbers are number texts

The text of an integer is its digits. The text of a float is the shortest digits, laid out by
position or with an exponent, and both layouts spell the number of the digits. What is spelled is
below the overflow, and so the text of a number can be read as a number again.

* `Binary64.spellsMagnitude_layout`: a decimal form is laid out as a text that spells its number.
* `Number.spellsDecimal_text`: the text of a number spells `Number.written`.
* `Number.isNumberText_text`: the text of a number is a number text.
-/

set_option autoImplicit false

namespace RecordFilter

/-! ### Digits -/

/-- A natural number is written in digits. -/
theorem allDigits_toDigits (n : Nat) : AllDigits (Nat.toDigits 10 n) := fun _ hc =>
  Nat.isDigit_of_mem_toDigits (by decide) (by decide) hc

/-- The digits of a natural number have its value. -/
theorem digitsValue_toDigits (n : Nat) : digitsValue (Nat.toDigits 10 n) = n :=
  Nat.ofDigitChars_ten_toDigits

/-- Zeros after the digits multiply by powers of ten. -/
theorem digitsValue_append_zeros (ds : List Char) (k : Nat) :
    digitsValue (ds ++ List.replicate k '0') = digitsValue ds * 10 ^ k := by
  unfold digitsValue
  rw [ofDigitChars_append_zero, ofDigitChars_replicate_zero, List.length_replicate, Nat.add_zero,
    Nat.mul_comm]

/-- Zeros in front of the digits make no difference. -/
theorem digitsValue_zeros_append (ds : List Char) (k : Nat) :
    digitsValue (List.replicate k '0' ++ ds) = digitsValue ds := by
  unfold digitsValue
  rw [ofDigitChars_append_zero, ofDigitChars_replicate_zero, Nat.mul_zero, Nat.zero_add]

/-- Zeros are digits. -/
theorem allDigits_zeros (k : Nat) : AllDigits (List.replicate k '0') := by
  intro c hc
  rw [List.eq_of_mem_replicate hc]
  rfl

/-- Digits after digits are digits. -/
theorem AllDigits.append {cs ds : List Char} (hcs : AllDigits cs) (hds : AllDigits ds) :
    AllDigits (cs ++ ds) := fun c hc =>
  (List.mem_append.mp hc).elim (hcs c) (hds c)

/-- The characters spell a number without a sign. -/
def SpellsMagnitude (cs : List Char) (q : ℚ) : Prop :=
  ∃ mantissa exponent m e, cs = mantissa ++ exponent ∧ MantissaText mantissa m ∧
    ExponentText exponent e ∧ q = m * 10 ^ e

/-- A sign can stand in front of a magnitude. -/
theorem SpellsMagnitude.spellsDecimal {cs sign : List Char} {q : ℚ} {s : Int}
    (h : SpellsMagnitude cs q) (hsign : SignText sign s) : SpellsDecimal (sign ++ cs) (s * q) := by
  obtain ⟨mantissa, exponent, m, e, rfl, hmantissa, hexponent, rfl⟩ := h
  exact ⟨sign, mantissa, exponent, s, m, e, rfl, hsign, hmantissa, hexponent, rfl⟩

/-- A mantissa without an exponent is the whole magnitude. -/
theorem MantissaText.spellsMagnitude {cs : List Char} {m : ℚ} (h : MantissaText cs m) :
    SpellsMagnitude cs m :=
  ⟨cs, [], m, 0, (List.append_nil cs).symm, h, .none, by rw [zpow_zero, mul_one]⟩

/-- Digits around a point are all the digits with the point at the end, moved to its place. -/
theorem MantissaText.around_point (ds fs : List Char) (hne : ds ≠ []) (hds : AllDigits ds)
    (hfs : AllDigits fs) :
    MantissaText (ds ++ '.' :: fs) (digitsValue (ds ++ fs) * 10 ^ (-(fs.length : Int))) := by
  rw [← digitsValue_add_div]
  exact .pointed hne hds hfs

namespace Binary64

variable {digits : List Char}

/-! ### Layouts -/

/-- Digits after the point and some zeros: so many places more. -/
theorem mantissaText_after_zeros (hds : AllDigits digits) (k : Nat) :
    MantissaText ('0' :: '.' :: (List.replicate k '0' ++ digits))
      (digitsValue digits * 10 ^ (-((k + digits.length : Nat) : Int))) := by
  have h := MantissaText.around_point (List.replicate 1 '0') _ (by decide) (allDigits_zeros 1)
    ((allDigits_zeros k).append hds)
  rwa [← List.append_assoc, ← List.replicate_add, digitsValue_zeros_append, List.length_append,
    List.length_replicate] at h

/-- Digits on both sides of the point: those after it are the places. -/
theorem mantissaText_take_drop (hds : AllDigits digits) {p : Nat} (hpos : 0 < p)
    (hlt : p < digits.length) : MantissaText (digits.take p ++ '.' :: digits.drop p)
      (digitsValue digits * 10 ^ (-((digits.length - p : Nat) : Int))) := by
  have hne : digits.take p ≠ [] := by
    rw [← List.length_pos_iff, List.length_take]
    omega
  have h := MantissaText.around_point _ (digits.drop p) hne
    (fun c hc => hds c (List.mem_of_mem_take hc)) fun c hc => hds c (List.mem_of_mem_drop hc)
  rwa [List.take_append_drop, List.length_drop] at h

/-- Digits and zeros in front of the point, and one more zero after it, which does not count. -/
theorem mantissaText_before_zero (hds : AllDigits digits) (hne : digits ≠ []) (k : Nat) :
    MantissaText (digits ++ List.replicate k '0' ++ ['.', '0']) (digitsValue digits * 10 ^ k) := by
  have hzeros : digits ++ List.replicate k '0' ++ List.replicate 1 '0' =
      digits ++ List.replicate (k + 1) '0' := by
    rw [List.append_assoc, ← List.replicate_add]
  have h := MantissaText.around_point _ _ (by simp [hne]) (hds.append (allDigits_zeros k))
    (allDigits_zeros 1)
  rw [hzeros, digitsValue_append_zeros, List.length_replicate, Nat.cast_mul, Nat.cast_pow,
    Nat.cast_ofNat, pow_succ, zpow_neg, zpow_natCast, pow_one, mul_assoc,
    mul_inv_cancel_right₀ (by norm_num)] at h
  exact h

/-- Digits laid out by position spell the number that has so many of them in front of the point. -/
theorem spellsMagnitude_positionalText (hds : AllDigits digits) (hne : digits ≠ [])
    (point : Int) : SpellsMagnitude (positionalText digits point)
      (digitsValue digits * 10 ^ (point - digits.length)) := by
  refine MantissaText.spellsMagnitude ?_
  unfold positionalText
  split
  · rename_i hpoint
    rw [show point - digits.length = -(((-point).toNat + digits.length : Nat) : Int) by omega]
    exact mantissaText_after_zeros hds _
  · rename_i hpoint
    obtain ⟨p, rfl⟩ := Int.eq_ofNat_of_zero_le (show 0 ≤ point by omega)
    simp only [Int.toNat_natCast]
    rcases Nat.lt_or_ge p digits.length with hlt | hge
    · have hplaces : (digits.drop p).isEmpty = false := by simpa using hlt
      rw [hplaces, if_neg Bool.false_ne_true, show p - digits.length = 0 by omega,
        List.replicate_zero, List.append_nil,
        show (p : Int) - digits.length = -((digits.length - p : Nat) : Int) by omega]
      exact mantissaText_take_drop hds (by omega) hlt
    · have hplaces : (digits.drop p).isEmpty = true := by simpa using hge
      rw [hplaces, if_pos rfl, List.take_of_length_le hge,
        show (p : Int) - digits.length = ((p - digits.length : Nat) : Int) by omega, zpow_natCast]
      exact mantissaText_before_zero hds hne _

/-- The first digit with the others as its places, and no point where there are none. -/
theorem mantissaText_first (hds : AllDigits digits) (hne : digits ≠ []) :
    MantissaText (digits.take 1 ++ if (digits.drop 1).isEmpty then [] else '.' :: digits.drop 1)
      (digitsValue digits * 10 ^ (1 - digits.length : Int)) := by
  have hlength := List.length_pos_iff.mpr hne
  rcases Nat.lt_or_ge 1 digits.length with hlt | hge
  · have hplaces : (digits.drop 1).isEmpty = false := by
      rwa [List.isEmpty_eq_false_iff, Ne, List.drop_eq_nil_iff, not_le]
    rw [hplaces, if_neg Bool.false_ne_true,
      show (1 - digits.length : Int) = -((digits.length - 1 : Nat) : Int) by omega]
    exact mantissaText_take_drop hds Nat.one_pos hlt
  · have hplaces : (digits.drop 1).isEmpty = true := by
      rwa [List.isEmpty_iff, List.drop_eq_nil_iff]
    rw [hplaces, if_pos rfl, List.append_nil, List.take_of_length_le hge,
      show (1 - digits.length : Int) = 0 by omega, zpow_zero, mul_one]
    exact .whole hne hds

/-- An exponent is written with its sign, whichever it is. -/
theorem exponentText_toDigits (exponent : Int) :
    ExponentText ('e' :: (if exponent < 0 then '-' else '+') :: Nat.toDigits 10 exponent.natAbs)
      exponent := by
  have hmarked : ∀ {sign : Char} {s : Int}, SignText [sign] s → s * exponent.natAbs = exponent →
      ExponentText ('e' :: sign :: Nat.toDigits 10 exponent.natAbs) exponent := by
    intro sign s hsign hs
    have h := ExponentText.marked (.inl rfl) hsign Nat.toDigits_ne_nil
      (allDigits_toDigits exponent.natAbs)
    rwa [digitsValue_toDigits, hs] at h
  split
  · exact hmarked .minus (by omega)
  · exact hmarked .plus (by omega)

/-- Digits laid out with an exponent spell the number whose first digit has this exponent. -/
theorem spellsMagnitude_exponentText (hds : AllDigits digits) (hne : digits ≠ [])
    (exponent : Int) : SpellsMagnitude (exponentText digits exponent)
      (digitsValue digits * 10 ^ (exponent + 1 - digits.length)) := by
  refine ⟨_, _, _, _, rfl, mantissaText_first hds hne, exponentText_toDigits exponent, ?_⟩
  rw [mul_assoc, ← zpow_add₀ (by norm_num)]
  congr 2
  ring

/-- The digits without the zeros at the end, and how many zeros these are. -/
theorem exists_eq_append_zeros (cs : List Char) : ∃ k,
    cs = (cs.reverse.dropWhile (· == '0')).reverse ++ List.replicate k '0' := by
  have hzeros : cs.reverse.takeWhile (· == '0') =
      List.replicate (cs.reverse.takeWhile (· == '0')).length '0' := by
    refine List.eq_replicate_of_mem fun c hc => ?_
    have hall := List.all_eq_true.mp (List.all_takeWhile (p := (· == '0')) (l := cs.reverse)) c hc
    exact beq_iff_eq.mp hall
  refine ⟨(cs.reverse.takeWhile (· == '0')).length, ?_⟩
  rw [← List.reverse_replicate, ← hzeros, ← List.reverse_append, List.takeWhile_append_dropWhile,
    List.reverse_reverse]

/-- A decimal form is laid out as a text that spells its number. -/
theorem spellsMagnitude_layout {d : DecimalForm} (hd : d.coefficient ≠ 0) :
    SpellsMagnitude (layout d) d.value := by
  have hall := allDigits_toDigits d.coefficient
  have hvalue := digitsValue_toDigits d.coefficient
  obtain ⟨k, hk⟩ := exists_eq_append_zeros (Nat.toDigits 10 d.coefficient)
  unfold layout
  simp only
  generalize (Nat.toDigits 10 d.coefficient).reverse.dropWhile (· == '0') = kept at hk ⊢
  generalize kept.reverse = digits at hk ⊢
  have hlength := congrArg List.length hk
  rw [hk, digitsValue_append_zeros] at hvalue
  rw [List.length_append, List.length_replicate] at hlength
  rw [hlength]
  have hdigits : AllDigits digits := fun c hc => hall c (hk ▸ List.mem_append_left _ hc)
  have hne : digits ≠ [] := by
    rintro rfl
    exact hd (hvalue.symm.trans (Nat.zero_mul _))
  -- The zeros that were taken off count for the point.
  have hnumber : d.value = digitsValue digits *
      10 ^ (((digits.length + k : Nat) : Int) + d.exponent - digits.length) := by
    unfold DecimalForm.value
    rw [← hvalue, Nat.cast_mul, Nat.cast_pow, Nat.cast_ofNat, mul_assoc, ← zpow_natCast,
      ← zpow_add₀ (by norm_num)]
    congr 2
    push_cast
    ring
  rw [hnumber]
  split
  · exact spellsMagnitude_positionalText hdigits hne _
  · have h := spellsMagnitude_exponentText hdigits hne
      (((digits.length + k : Nat) : Int) + d.exponent - 1)
    rwa [sub_add_cancel] at h

/-! ### Texts -/

/-- The number that the text of a float spells: zero, or the shortest form. -/
def written (x : Binary64) : ℚ :=
  Numeral.signFactor x.negative * if x.isZero then 0 else x.shortest.value

/-- The text of a float spells the number that is written. -/
theorem spellsDecimal_text (x : Binary64) : SpellsDecimal x.text.toList x.written := by
  have hmagnitude : SpellsMagnitude (if x.isZero then ['0', '.', '0'] else layout x.shortest)
      (if x.isZero then 0 else x.shortest.value) := by
    cases hzero : x.isZero with
    | true =>
      have h := MantissaText.around_point ['0'] ['0'] (by decide)
        (allDigits_zeros 1) (allDigits_zeros 1)
      rw [show digitsValue (['0'] ++ ['0']) = 0 from rfl, Nat.cast_zero, zero_mul] at h
      exact h.spellsMagnitude
    | false =>
      refine spellsMagnitude_layout fun hcoefficient => ?_
      have hsignificand : 0 < x.significand := by
        simpa [isZero, Nat.pos_iff_ne_zero] using hzero
      have hpos := (withinHalfUnit_shortest x).pos hsignificand
      rw [DecimalForm.value, hcoefficient, Nat.cast_zero, zero_mul] at hpos
      exact lt_irrefl _ hpos
  unfold text written
  rw [String.toList_ofList]
  cases x.negative with
  | true => exact hmagnitude.spellsDecimal .minus
  | false => exact hmagnitude.spellsDecimal .none

/-- The text of a float spells a number below the overflow. -/
theorem abs_written_lt (x : Binary64) : |x.written| < Numeral.overflow := by
  have hsign : |((Numeral.signFactor x.negative : Int) : ℚ)| = 1 := by
    cases x.negative <;> simp [Numeral.signFactor]
  unfold written
  rw [abs_mul, hsign, one_mul]
  split
  · rw [abs_zero]
    exact overflow_pos
  · rw [abs_of_nonneg (by unfold DecimalForm.value; positivity)]
    exact shortest_lt_overflow x

/-- A float is written with a point or with an exponent. -/
theorem exists_mark_mem_text (x : Binary64) : ∃ c ∈ x.text.toList, c = '.' ∨ c = 'e' := by
  have hmagnitude : ∃ c ∈ (if x.isZero then ['0', '.', '0'] else layout x.shortest),
      c = '.' ∨ c = 'e' := by
    split
    · exact ⟨'.', by decide, .inl rfl⟩
    · unfold layout
      simp only
      split
      · refine ⟨'.', ?_, .inl rfl⟩
        unfold positionalText
        split <;> simp
      · exact ⟨'e', by simp [exponentText], .inr rfl⟩
  obtain ⟨c, hc, hmark⟩ := hmagnitude
  refine ⟨c, ?_, hmark⟩
  unfold text
  rw [String.toList_ofList]
  split
  · exact List.mem_cons_of_mem _ hc
  · exact hc

end Binary64

namespace Number

/-- The number that the text of a number spells. -/
def written : Number → ℚ
  | .integer n _ => n
  | .float x => x.written

/-- The text of a number spells the number that is written. -/
theorem spellsDecimal_text (n : Number) : SpellsDecimal n.text.toList n.written := by
  cases n with
  | float x => exact x.spellsDecimal_text
  | integer value fits =>
    have hmagnitude : SpellsMagnitude (Nat.toDigits 10 value.natAbs) value.natAbs := by
      have h := MantissaText.whole Nat.toDigits_ne_nil (allDigits_toDigits value.natAbs)
      rw [digitsValue_toDigits] at h
      exact h.spellsMagnitude
    show SpellsDecimal (String.ofList (integerChars value)).toList value
    rw [String.toList_ofList, integerChars]
    split
    · have h := hmagnitude.spellsDecimal .minus
      rwa [← Int.cast_natCast, ← Int.cast_mul, show -1 * (value.natAbs : Int) = value by omega] at h
    · have h := hmagnitude.spellsDecimal .none
      rwa [← Int.cast_natCast, ← Int.cast_mul, show 1 * (value.natAbs : Int) = value by omega] at h

/-- The text of a number spells a number below the overflow. -/
theorem abs_written_lt (n : Number) : |n.written| < 2 ^ 1024 - 2 ^ 970 := by
  rw [← Binary64.cast_overflow]
  cases n with
  | float x => exact x.abs_written_lt
  | integer value fits =>
    have hword : 2 ^ 64 < Numeral.overflow := by decide +kernel
    obtain ⟨hlow, hhigh⟩ := fits
    show |(value : ℚ)| < Numeral.overflow
    rw [← Int.cast_abs, ← Int.natCast_natAbs, Int.cast_natCast, Nat.cast_lt]
    exact lt_of_le_of_lt (by omega) hword

/-- The text of a number is a number text. -/
theorem isNumberText_text (n : Number) : isNumberText n.text.toList = true :=
  isNumberText_iff.mpr ⟨n.written, n.spellsDecimal_text, n.abs_written_lt⟩

/-- The text of a number has no blanks. -/
theorem trimChars_text (n : Number) : Text.trimChars n.text.toList = n.text.toList := by
  have hblank : ∀ c ∈ n.text.toList, Text.isBlank c = false := fun c hc =>
    forall_isNumeralChar (P := fun c => Text.isBlank c = false) (by decide) (by decide)
      (n.isNumeralText_text.2 c hc)
  refine Text.trimChars_eq_iff.mpr ⟨⟨[], [], by simp, by simp, by simp⟩, ?_, ?_⟩
  · exact fun c hc => hblank c (List.mem_of_mem_head? hc)
  · exact fun c hc => hblank c (List.mem_of_getLast? hc)

end Number

end RecordFilter
