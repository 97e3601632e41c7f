import RecordFilter.Proofs.Number.FloatReading
import RecordFilter.Proofs.Text.Trimming

/-!
# `RecordFilter.Proofs.Formula.NumberLiterals`: texts as number literals

A text is written into a formula without quotes where a number is asked for, so only what is a
number may pass. `numberLiteral_text` says which texts pass, and that what is written is the text
between its blanks.

The bound `2 ^ 1024 - 2 ^ 970` is the least magnitude that rounds to infinity in binary64.
-/

set_option autoImplicit false

namespace RecordFilter

/-- A text gives a number literal or one fault. -/
theorem numberLiteral_text_eq (s : String) : (Value.text s).numberLiteral =
    if isNumberText (Text.trimChars s.toList) then
      .ok (.number (String.ofList (Text.trimChars s.toList)))
    else .error (.invalidValue .number ("\"" ++ s ++ "\"")) :=
  rfl

/-- Between its blanks a text has a core. The text has a number literal exactly when the core
spells a number below the bound; the literal is the core itself, so it has only characters of
numerals, and spells this number and no other. For every other text the fault names the text.

The same texts have a literal if the core is read as binary64 number, where names of infinity and
of no number are read as well: the reading has to be finite, and all characters those of
numerals. -/
theorem numberLiteral_text (s : String) :
    ∃ core, Text.TrimsTo s.toList core ∧
      (∀ l, (Value.text s).numberLiteral = .ok l ↔
        ∃ q, SpellsDecimal core q ∧ |q| < 2 ^ 1024 - 2 ^ 970 ∧ l = .number (String.ofList core)) ∧
      (∀ fault, (Value.text s).numberLiteral = .error fault ↔
        (∀ q, SpellsDecimal core q → 2 ^ 1024 - 2 ^ 970 ≤ |q|) ∧
          fault = .invalidValue .number ("\"" ++ s ++ "\"")) ∧
      (∀ l, (Value.text s).numberLiteral = .ok l → l.render.toList = core ∧
        (∀ c ∈ core, isNumeralChar c = true) ∧ ∃ q, ∀ r, SpellsDecimal core r ↔ r = q) ∧
      ((∃ l, (Value.text s).numberLiteral = .ok l) ↔
        (∃ x, FloatReading.ofChars? core = some (.finite x)) ∧
          ∀ c ∈ core, isNumeralChar c = true) := by
  refine ⟨Text.trimChars s.toList, Text.trimsTo_trimChars _, ?_⟩
  rw [numberLiteral_text_eq]
  generalize Text.trimChars s.toList = core
  have hiff : isNumberText core = true ↔ _ := isNumberText_iff
  have hfinite : isNumberText core = true ↔ _ := isNumberText_iff_finite
  cases hnumber : isNumberText core with
  | true =>
    obtain ⟨q, hq, hlt⟩ := hiff.mp hnumber
    simp only [if_true]
    refine ⟨fun l => ⟨?_, ?_⟩, fun fault => ⟨nofun, ?_⟩, ?_, ?_⟩
    · intro h
      cases h
      exact ⟨q, hq, hlt, rfl⟩
    · rintro ⟨_, -, -, rfl⟩
      rfl
    · rintro ⟨hgreat, -⟩
      exact absurd hlt (not_lt.mpr (hgreat q hq))
    · intro l h
      cases h
      -- A text spells no second number.
      refine ⟨String.toList_ofList, hq.isNumeralText.2, q, fun r => ⟨fun hr => hr.unique hq, ?_⟩⟩
      rintro rfl
      exact hq
    · exact iff_of_true ⟨_, rfl⟩ (hfinite.mp hnumber)
  | false =>
    have hnone : ∀ q, SpellsDecimal core q → 2 ^ 1024 - 2 ^ 970 ≤ |q| := by
      intro q hq
      by_contra hlt
      exact Bool.false_ne_true (hnumber.symm.trans (hiff.mpr ⟨q, hq, not_le.mp hlt⟩))
    simp only [Bool.false_eq_true, if_false]
    refine ⟨fun l => ⟨nofun, ?_⟩, fun fault => ⟨?_, ?_⟩, nofun, iff_of_false nofun ?_⟩
    · rintro ⟨q, hq, hlt, -⟩
      exact absurd hlt (not_lt.mpr (hnone q hq))
    · intro h
      cases h
      exact ⟨hnone, rfl⟩
    · rintro ⟨-, rfl⟩
      rfl
    · intro h
      exact Bool.false_ne_true (hnumber.symm.trans (hfinite.mpr h))

/-- The greatest number that rounds to a finite one, to seventeen places, and the next. -/
example :
    (Value.text " 1.7976931348623158E+308\n").numberLiteral
        = .ok (.number "1.7976931348623158E+308") ∧
      (Value.text "1.7976931348623159E+308").numberLiteral
        = .error (.invalidValue .number "\"1.7976931348623159E+308\"") := by
  decide +kernel

end RecordFilter
