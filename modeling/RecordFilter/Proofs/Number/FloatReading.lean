import RecordFilter.Proofs.Formula.Written
import RecordFilter.Proofs.Number.Rounding

/-!
# `RecordFilter.Proofs.Number.FloatReading`: a reader of binary64 numbers

`FloatReading.ofChars?` reads more texts than there are numbers: besides numerals, which it rounds
to the nearest number or to infinity, it reads the names of infinity and of no number, in any case
of letters and with a sign. It is the plain way to ask whether a text is a finite number: read it,
and look at what comes out. `isNumberText` asks the same without rounding.

* `FloatReading.exists_finite_iff`: the reading is finite exactly for decimal numbers below the
  overflow.
* `isNumberText_iff_finite`: a text is a number text when its reading is finite and it has only
  characters of numerals.
-/

set_option autoImplicit false

namespace RecordFilter

/-- What a text stands for in binary64. -/
inductive FloatReading where
  | finite (value : Binary64)
  | infinite (negative : Bool)
  | notANumber

/-- What holds of the digits and of the five marks holds of every character of a numeral. -/
theorem forall_isNumeralChar {P : Char → Prop} (hdigits : ∀ k < 10, P (Nat.digitChar k))
    (hmarks : P '+' ∧ P '-' ∧ P '.' ∧ P 'e' ∧ P 'E') {c : Char} (h : isNumeralChar c = true) :
    P c := by
  obtain ⟨hplus, hminus, hpoint, hsmall, hcapital⟩ := hmarks
  have hcases : c.isDigit = true ∨ c = '+' ∨ c = '-' ∨ c = '.' ∨ c = 'e' ∨ c = 'E' := by
    simpa [isNumeralChar, or_assoc] using h
  rcases hcases with hdigit | rfl | rfl | rfl | rfl | rfl
  · obtain ⟨hlt, hc⟩ := digitChar_of_isDigit hdigit
    rw [hc]
    exact hdigits _ hlt
  all_goals assumption

namespace FloatReading

/-- The numeral rounded to the nearest number, or to infinity from the overflow on. -/
def ofNumeral (n : Numeral) : FloatReading :=
  match Binary64.ofRatio? n.negative (n.coefficient * Nat.pow 10 n.exponent.toNat)
      (Nat.pow 10 (-n.exponent).toNat) with
  | some x => .finite x
  | none => .infinite n.negative

/-- What a name in small letters stands for. -/
def ofName? (negative : Bool) (name : List Char) : Option FloatReading :=
  if name = "inf".toList ∨ name = "infinity".toList then some (.infinite negative)
  else if name = "nan".toList then some .notANumber
  else none

/-- Reads a name after an optional sign, in any case of letters, or a numeral. -/
def ofChars? (cs : List Char) : Option FloatReading :=
  (ofName? (Numeral.readSign cs).1 ((Numeral.readSign cs).2.map Char.toLower)) <|>
    (Numeral.ofChars? cs).map ofNumeral

/-- A numeral has a finite nearest number exactly below the overflow. -/
theorem exists_ofNumeral_eq_finite_iff (n : Numeral) :
    (∃ x, ofNumeral n = .finite x) ↔ |n.value| < 2 ^ 1024 - 2 ^ 970 := by
  have hden : 0 < Nat.pow 10 (-n.exponent).toNat := Nat.pow_pos (by decide)
  rw [Numeral.abs_value, ← Binary64.cast_overflow, ← Numeral.scaled_lt_iff, ← Nat.cast_lt (α := ℚ),
    ← not_le, Nat.cast_mul, ← Binary64.ofRatio?_eq_none_iff n.negative hden, ofNumeral]
  cases Binary64.ofRatio? n.negative (n.coefficient * Nat.pow 10 n.exponent.toNat)
    (Nat.pow 10 (-n.exponent).toNat) <;> simp

/-- A text with only characters of numerals is no name. -/
theorem ofName?_eq_none {negative : Bool} {cs : List Char}
    (h : ∀ c ∈ cs, isNumeralChar c = true) : ofName? negative (cs.map Char.toLower) = none := by
  -- Each name has the letter `n` in it.
  have hletter : 'n' ∉ cs.map Char.toLower := by
    intro hmem
    obtain ⟨c, hc, hlower⟩ := List.mem_map.mp hmem
    exact forall_isNumeralChar (P := fun c => c.toLower ≠ 'n') (by decide) (by decide) (h c hc)
      hlower
  have hname : ∀ name : List Char, 'n' ∈ name → cs.map Char.toLower ≠ name := by
    rintro name hname rfl
    exact hletter hname
  have hinf := hname "inf".toList (by decide)
  have hinfinity := hname "infinity".toList (by decide)
  have hnan := hname "nan".toList (by decide)
  simp only [ofName?, hinf, hinfinity, hnan, or_self, if_false]

/-- A text is read as a finite number exactly when it spells a number below the overflow. -/
theorem exists_finite_iff {cs : List Char} : (∃ x, ofChars? cs = some (.finite x)) ↔
    ∃ q, SpellsDecimal cs q ∧ |q| < 2 ^ 1024 - 2 ^ 970 := by
  have hname : ∀ {n}, Numeral.ofChars? cs = some n → ofChars? cs = some (ofNumeral n) := by
    intro n hn
    obtain ⟨sign, hcs, -⟩ := Numeral.exists_signText_of_readSign cs
    have hchars := (Numeral.isNumeralText_of_ofChars? hn).2
    rw [hcs] at hchars
    rw [ofChars?, hn, ofName?_eq_none fun c hc => hchars c (List.mem_append_right _ hc)]
    rfl
  constructor
  · rintro ⟨x, hx⟩
    cases hn : Numeral.ofChars? cs with
    | none =>
      -- A text that is no numeral has the reading of a name, if any.
      rw [ofChars?, hn] at hx
      unfold ofName? at hx
      split_ifs at hx <;> cases hx
    | some n =>
      rw [hname hn, Option.some.injEq] at hx
      exact ⟨n.value, Numeral.spellsDecimal_of_ofChars? hn,
        (exists_ofNumeral_eq_finite_iff n).mp ⟨x, hx⟩⟩
  · rintro ⟨q, hq, hlt⟩
    obtain ⟨n, hn, rfl⟩ := Numeral.exists_ofChars?_of_spellsDecimal hq
    obtain ⟨x, hx⟩ := (exists_ofNumeral_eq_finite_iff n).mpr hlt
    exact ⟨x, by rw [hname hn, hx]⟩

end FloatReading

/-! ### Number texts -/

/-- A text spells a number with characters of numerals only. -/
theorem SpellsDecimal.isNumeralText {cs : List Char} {q : ℚ} (h : SpellsDecimal cs q) :
    IsNumeralText cs := by
  obtain ⟨n, hn, -⟩ := Numeral.exists_ofChars?_of_spellsDecimal h
  exact Numeral.isNumeralText_of_ofChars? hn

/-- A number text spells a number below the overflow. -/
theorem isNumberText_iff {cs : List Char} : isNumberText cs = true ↔
    ∃ q, SpellsDecimal cs q ∧ |q| < 2 ^ 1024 - 2 ^ 970 := by
  unfold isNumberText
  rw [Option.any_eq_true]
  constructor
  · rintro ⟨n, hn, hfinite⟩
    exact ⟨n.value, Numeral.spellsDecimal_of_ofChars? hn, n.isFinite_iff.mp hfinite⟩
  · rintro ⟨q, hq, hlt⟩
    obtain ⟨n, hn, rfl⟩ := Numeral.exists_ofChars?_of_spellsDecimal hq
    exact ⟨n, hn, n.isFinite_iff.mpr hlt⟩

/-- A text is a number text when its reading is finite and all its characters are those of
numerals. -/
theorem isNumberText_iff_finite {cs : List Char} : isNumberText cs = true ↔
    (∃ x, FloatReading.ofChars? cs = some (.finite x)) ∧ ∀ c ∈ cs, isNumeralChar c = true := by
  rw [isNumberText_iff, FloatReading.exists_finite_iff]
  refine ⟨fun h => ⟨h, ?_⟩, fun h => h.1⟩
  obtain ⟨q, hq, -⟩ := h
  exact hq.isNumeralText.2

end RecordFilter
