import Mathlib.Algebra.Order.Field.Basic
import Mathlib.Data.Rat.Cast.Order
import Mathlib.Tactic.FieldSimp
import Mathlib.Tactic.NormNum
import Mathlib.Tactic.Ring
import RecordFilter.Number.Numeral
import RecordFilter.Proofs.Number.Digits

/-!
# `RecordFilter.Proofs.Number.Decimal`: the grammar of decimal numbers

`SpellsDecimal` says which rational number a text spells:

    decimal  ::= sign? mantissa exponent?
    mantissa ::= digit+ ('.' digit*)? | '.' digit+
    exponent ::= ('e' | 'E') sign? digit+

The grammar has a relation for each part and no order in which a text is looked at.

* `Numeral.spellsDecimal_of_ofChars?`, `Numeral.exists_ofChars?_of_spellsDecimal`: numerals are
  read from exactly the texts of this grammar, and stand for the number that the text spells.
* `SpellsDecimal.unique`: a text spells one number at most.
-/

set_option autoImplicit false

namespace RecordFilter

/-! ### The grammar -/

/-- The characters are decimal digits. -/
def AllDigits (cs : List Char) : Prop :=
  ∀ c ∈ cs, c.isDigit = true

/-- The number that digits spell. -/
def digitsValue (cs : List Char) : Nat :=
  Nat.ofDigitChars 10 cs 0

/-- The texts of a sign, and the factor that each stands for. -/
inductive SignText : List Char → Int → Prop
  | none : SignText [] 1
  | plus : SignText ['+'] 1
  | minus : SignText ['-'] (-1)

/-- Digits with an optional point between or after them, or after a point. -/
inductive MantissaText : List Char → ℚ → Prop
  | whole {ds : List Char} (hne : ds ≠ []) (hds : AllDigits ds) :
    MantissaText ds (digitsValue ds)
  | pointed {ds fs : List Char} (hne : ds ≠ []) (hds : AllDigits ds) (hfs : AllDigits fs) :
    MantissaText (ds ++ '.' :: fs) (digitsValue ds + digitsValue fs / 10 ^ fs.length)
  | bare {fs : List Char} (hne : fs ≠ []) (hfs : AllDigits fs) :
    MantissaText ('.' :: fs) (digitsValue fs / 10 ^ fs.length)

/-- The exponent at the end, with its mark. -/
inductive ExponentText : List Char → Int → Prop
  | none : ExponentText [] 0
  | marked {mark : Char} {sign ds : List Char} {s : Int} (hmark : mark = 'e' ∨ mark = 'E')
    (hsign : SignText sign s) (hne : ds ≠ []) (hds : AllDigits ds) :
    ExponentText (mark :: (sign ++ ds)) (s * digitsValue ds)

/-- The characters spell the number in decimal. -/
def SpellsDecimal (cs : List Char) (q : ℚ) : Prop :=
  ∃ sign mantissa exponent s m e, cs = sign ++ (mantissa ++ exponent) ∧ SignText sign s ∧
    MantissaText mantissa m ∧ ExponentText exponent e ∧ q = s * (m * 10 ^ e)

/-- Digits before and after the point, some of one or the other, and the point where any follow. -/
theorem mantissaText_iff {cs : List Char} {m : ℚ} : MantissaText cs m ↔
    ∃ ds fs, AllDigits ds ∧ AllDigits fs ∧ ¬ (ds = [] ∧ fs = []) ∧
      (cs = ds ++ '.' :: fs ∨ cs = ds ∧ fs = []) ∧
      m = digitsValue ds + digitsValue fs / 10 ^ fs.length := by
  constructor
  · intro h
    cases h with
    | whole hne hds =>
      refine ⟨cs, [], hds, nofun, fun h => hne h.1, .inr ⟨rfl, rfl⟩, ?_⟩
      simp [digitsValue]
    | @pointed ds fs hne hds hfs => exact ⟨ds, fs, hds, hfs, fun h => hne h.1, .inl rfl, rfl⟩
    | @bare fs hne hfs =>
      refine ⟨[], fs, nofun, hfs, fun h => hne h.2, .inl rfl, ?_⟩
      simp [digitsValue]
  · rintro ⟨ds, fs, hds, hfs, hne, hcs, rfl⟩
    cases ds with
    | nil =>
      -- Without digits in front there is a point, and digits after it.
      have hfsne : fs ≠ [] := fun h => hne ⟨rfl, h⟩
      rcases hcs with rfl | ⟨-, hnil⟩
      · simpa [digitsValue] using MantissaText.bare hfsne hfs
      · exact absurd hnil hfsne
    | cons d ds =>
      rcases hcs with rfl | ⟨rfl, rfl⟩
      · exact .pointed (List.cons_ne_nil _ _) hds hfs
      · simpa [digitsValue] using MantissaText.whole (List.cons_ne_nil _ _) hds

/-- The number of the digits on both sides of a point is that of all the digits, with the point
moved to the end. -/
theorem digitsValue_add_div (ds fs : List Char) : (digitsValue ds : ℚ) +
    digitsValue fs / 10 ^ fs.length = digitsValue (ds ++ fs) * 10 ^ (-(fs.length : Int)) := by
  unfold digitsValue
  rw [ofDigitChars_append_zero, zpow_neg, zpow_natCast]
  push_cast
  field_simp

/-- What follows a mantissa is no digit and no point. -/
theorem ExponentText.of_mem_head? {cs : List Char} {e : Int} (h : ExponentText cs e) :
    ∀ c ∈ cs.head?, c.isDigit = false ∧ c ≠ '.' := by
  intro c hc
  cases h with
  | none => cases hc
  | marked hmark =>
    cases hc
    rcases hmark with rfl | rfl <;> decide

/-! ### Signs -/

namespace Numeral

/-- The number that a numeral stands for. -/
def value (n : Numeral) : ℚ :=
  (if n.negative then -1 else 1) * (n.coefficient * 10 ^ n.exponent)

/-- The factor of a sign. -/
def signFactor (negative : Bool) : Int :=
  if negative then -1 else 1

/-- What is read as a sign is the text of one. -/
theorem exists_signText_of_readSign (cs : List Char) : ∃ sign, cs = sign ++ (readSign cs).2 ∧
    SignText sign (signFactor (readSign cs).1) := by
  unfold readSign
  split
  · exact ⟨['-'], rfl, .minus⟩
  · exact ⟨['+'], rfl, .plus⟩
  · exact ⟨[], rfl, .none⟩

/-- A sign is read off the front of a text that goes on without one. -/
theorem readSign_append {sign rest : List Char} {s : Int} (h : SignText sign s)
    (hrest : ∀ c ∈ rest.head?, c ≠ '-' ∧ c ≠ '+') :
    (readSign (sign ++ rest)).2 = rest ∧ signFactor (readSign (sign ++ rest)).1 = s := by
  cases h with
  | plus | minus => exact ⟨rfl, rfl⟩
  | none =>
    cases rest with
    | nil => exact ⟨rfl, rfl⟩
    | cons c rest =>
      obtain ⟨hminus, hplus⟩ := hrest c rfl
      rw [List.nil_append, readSign]
      · exact ⟨rfl, rfl⟩
      · simpa using hminus
      · simpa using hplus

/-! ### Digits -/

/-- The run of digits at the front consists of digits. -/
theorem allDigits_takeWhile (cs : List Char) : AllDigits (cs.takeWhile Char.isDigit) :=
  List.all_eq_true.mp List.all_takeWhile

/-- A digit is neither a sign nor a point nor the mark of an exponent. -/
theorem ne_of_isDigit {c : Char} (h : c.isDigit = true) :
    (c ≠ '-' ∧ c ≠ '+') ∧ c ≠ '.' ∧ c ≠ 'e' ∧ c ≠ 'E' := by
  refine ⟨⟨?_, ?_⟩, ?_, ?_, ?_⟩ <;> rintro rfl <;> simp at h

/-- Digits are read up to the first character that is none. -/
theorem span_append {ds rest : List Char} (hds : AllDigits ds)
    (hrest : ∀ c ∈ rest.head?, c.isDigit = false) :
    (ds ++ rest).takeWhile Char.isDigit = ds ∧ (ds ++ rest).dropWhile Char.isDigit = rest := by
  rw [List.takeWhile_append_of_pos hds, List.dropWhile_append_of_pos hds]
  cases rest with
  | nil => simp
  | cons c rest => simp [hrest c rfl]

/-! ### Exponents -/

/-- An exponent is read from exactly the texts of one. -/
theorem readExponent?_eq_some_iff {cs : List Char} {e : Int} :
    readExponent? cs = some e ↔ ExponentText cs e := by
  -- The digits have a value when there are some and all of them are digits.
  have hdigits : ∀ ds : List Char,
      (ds.isEmpty || !ds.all Char.isDigit) = false ↔ ds ≠ [] ∧ AllDigits ds := by
    intro ds
    simp [AllDigits, List.all_eq_true]
  have hfactor : ∀ (negative : Bool) (n : Nat), (if negative then some (-(n : Int))
      else some (n : Int)) = some (signFactor negative * n) := by
    intro negative n
    cases negative <;> simp [signFactor]
  constructor
  · intro h
    cases cs with
    | nil =>
      cases h
      exact .none
    | cons mark rest =>
      rw [readExponent?] at h
      split at h
      · rename_i hmark
        obtain ⟨sign, hrest, hsign⟩ := exists_signText_of_readSign rest
        cases hread : (readSign rest).2.isEmpty || !(readSign rest).2.all Char.isDigit with
        | true => simp [hread] at h
        | false =>
          obtain ⟨hne, hds⟩ := (hdigits _).mp hread
          simp only [hread, Bool.false_eq_true, if_false] at h
          rw [hfactor, Option.some.injEq] at h
          rw [hrest, ← h]
          exact .marked hmark hsign hne hds
      · cases h
  · intro h
    cases h with
    | none => rfl
    | @marked mark sign ds s hmark hsign hne hds =>
      obtain ⟨hrest, hs⟩ : (readSign (sign ++ ds)).2 = ds ∧ _ := readSign_append hsign fun c hc =>
        (ne_of_isDigit (hds c (List.mem_of_mem_head? hc))).1
      rw [readExponent?, if_pos hmark]
      simp only [hrest, (hdigits ds).mpr ⟨hne, hds⟩, Bool.false_eq_true, if_false]
      rw [hfactor, hs]
      rfl

/-! ### Numerals -/

/-- The digits after a point, and what follows them. -/
theorem readFraction_point {fs rest : List Char} (hfs : AllDigits fs)
    (hrest : ∀ c ∈ rest.head?, c.isDigit = false) :
    readFraction ('.' :: (fs ++ rest)) = (fs, rest) := by
  obtain ⟨htake, hdrop⟩ := span_append hfs hrest
  rw [readFraction, htake, hdrop]

/-- Without a point there are no digits of a fraction. -/
theorem readFraction_of_ne {rest : List Char} (hrest : ∀ c ∈ rest.head?, c ≠ '.') :
    readFraction rest = ([], rest) := by
  cases rest with
  | nil => rfl
  | cons c rest =>
    rw [readFraction]
    simpa using hrest c rfl

/-- What is read as a fraction is a point with digits, or nothing. -/
theorem eq_of_readFraction (cs : List Char) : AllDigits (readFraction cs).1 ∧
    (cs = '.' :: ((readFraction cs).1 ++ (readFraction cs).2) ∨
      cs = (readFraction cs).2 ∧ (readFraction cs).1 = []) := by
  unfold readFraction
  split
  · exact ⟨allDigits_takeWhile _, .inl (by rw [List.takeWhile_append_dropWhile])⟩
  · exact ⟨nofun, .inr ⟨rfl, rfl⟩⟩

/-- The value of a numeral whose digits are on both sides of a point. -/
theorem value_mk (negative : Bool) (ds fs : List Char) (e : Int) :
    value ⟨negative, natOfDigits (ds ++ fs), e - fs.length⟩ =
      signFactor negative * ((digitsValue ds + digitsValue fs / 10 ^ fs.length) * 10 ^ e) := by
  have hsign : ((signFactor negative : Int) : ℚ) = if negative then -1 else 1 := by
    cases negative <;> simp [signFactor]
  rw [value, hsign, digitsValue_add_div, sub_eq_neg_add, zpow_add₀ (by norm_num), mul_assoc]
  rfl

/-- A text that is read as a numeral spells its value. -/
theorem spellsDecimal_of_ofChars? {cs : List Char} {n : Numeral} (h : ofChars? cs = some n) :
    SpellsDecimal cs n.value := by
  obtain ⟨sign, hcs, hsign⟩ := exists_signText_of_readSign cs
  unfold ofChars? at h
  simp only at h
  -- The parts are taken off from the front: sign, digits, fraction, exponent.
  generalize (readSign cs).1 = negative at h hsign
  generalize (readSign cs).2 = rest at h hcs
  have hrest : rest.takeWhile Char.isDigit ++ rest.dropWhile Char.isDigit = rest :=
    List.takeWhile_append_dropWhile
  have hds := allDigits_takeWhile rest
  generalize rest.takeWhile Char.isDigit = ds at h hrest hds
  obtain ⟨hfs, hpoint⟩ := eq_of_readFraction (rest.dropWhile Char.isDigit)
  generalize rest.dropWhile Char.isDigit = rest' at h hrest hfs hpoint
  generalize (readFraction rest').1 = fs at h hfs hpoint
  generalize (readFraction rest').2 = tail at h hpoint
  split at h
  · cases h
  · rename_i hne
    obtain ⟨e, he, rfl⟩ := Option.map_eq_some_iff.mp h
    have hne : ¬ (ds = [] ∧ fs = []) := by simpa using hne
    have hmantissa : ∃ mantissa, cs = sign ++ (mantissa ++ tail) ∧
        (mantissa = ds ++ '.' :: fs ∨ mantissa = ds ∧ fs = []) := by
      rcases hpoint with hpoint | ⟨hpoint, hnil⟩
      · exact ⟨ds ++ '.' :: fs, by rw [hcs, ← hrest, hpoint]; simp, .inl rfl⟩
      · exact ⟨ds, by rw [hcs, ← hrest, hpoint], .inr ⟨rfl, hnil⟩⟩
    obtain ⟨mantissa, hcs, hform⟩ := hmantissa
    exact ⟨sign, mantissa, tail, _, _, e, hcs, hsign,
      mantissaText_iff.mpr ⟨ds, fs, hds, hfs, hne, hform, rfl⟩, readExponent?_eq_some_iff.mp he,
      value_mk negative ds fs e⟩

/-- A text that spells a number is read as a numeral of this value. -/
theorem exists_ofChars?_of_spellsDecimal {cs : List Char} {q : ℚ} (h : SpellsDecimal cs q) :
    ∃ n, ofChars? cs = some n ∧ n.value = q := by
  obtain ⟨sign, mantissa, tail, s, m, e, rfl, hsign, hmantissa, htail, rfl⟩ := h
  obtain ⟨ds, fs, hds, hfs, hne, hform, rfl⟩ := mantissaText_iff.mp hmantissa
  have htailDigit : ∀ c ∈ tail.head?, c.isDigit = false := fun c hc => (htail.of_mem_head? c hc).1
  have htailPoint : ∀ c ∈ tail.head?, c ≠ '.' := fun c hc => (htail.of_mem_head? c hc).2
  -- After the digits in front comes a point or the exponent, so the digits end there.
  obtain ⟨rest, hrest, hrestDigit, hfraction⟩ : ∃ rest, mantissa ++ tail = ds ++ rest ∧
      (∀ c ∈ rest.head?, c.isDigit = false) ∧ readFraction rest = (fs, tail) := by
    rcases hform with rfl | ⟨rfl, rfl⟩
    · exact ⟨'.' :: (fs ++ tail), by simp, by simp, readFraction_point hfs htailDigit⟩
    · exact ⟨tail, rfl, htailDigit, readFraction_of_ne htailPoint⟩
  have hfirst : ∀ c ∈ (ds ++ rest).head?, c ≠ '-' ∧ c ≠ '+' := by
    intro c hc
    cases ds with
    | cons d ds =>
      cases hc
      exact (ne_of_isDigit (hds _ List.mem_cons_self)).1
    | nil =>
      -- Then the first character is the point, since digits follow one.
      rcases hform with rfl | ⟨rfl, rfl⟩
      · rw [List.nil_append] at hrest
        rw [← hrest] at hc
        cases hc
        decide
      · exact absurd ⟨rfl, rfl⟩ hne
  obtain ⟨hsignRest, hfactor⟩ := readSign_append hsign hfirst
  obtain ⟨htake, hdrop⟩ := span_append hds hrestDigit
  refine ⟨⟨(readSign (sign ++ (ds ++ rest))).1, natOfDigits (ds ++ fs), e - fs.length⟩, ?_, ?_⟩
  · unfold ofChars?
    simp only [hrest, hsignRest, htake, hdrop, hfraction, readExponent?_eq_some_iff.mpr htail]
    rw [if_neg (by simpa using hne)]
    rfl
  · rw [value_mk, hfactor]

end Numeral

/-- A text spells one number at most. -/
theorem SpellsDecimal.unique {cs : List Char} {q r : ℚ} (hq : SpellsDecimal cs q)
    (hr : SpellsDecimal cs r) : q = r := by
  obtain ⟨m, hm, rfl⟩ := Numeral.exists_ofChars?_of_spellsDecimal hq
  obtain ⟨n, hn, rfl⟩ := Numeral.exists_ofChars?_of_spellsDecimal hr
  cases hm.symm.trans hn
  rfl

end RecordFilter
