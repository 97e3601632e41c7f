import Mathlib.Algebra.Group.Nat.Defs

/-!
# `RecordFilter.Proofs.Number.Digits`: decimal digits and the number they spell

A count of digits bounds the number, and digits of one count spell different numbers:
`ofDigitChars_lt` and `ofDigitChars_inj`. `ofDigitChars_append_zero` splits a number where its
digits are split, so zeros at the end multiply it by a power of ten.
-/

set_option autoImplicit false

namespace RecordFilter

/-- A digit stands for a number below ten, and is the only one that does. -/
theorem digitChar_of_isDigit {c : Char} (h : c.isDigit = true) :
    c.toNat - 48 < 10 ∧ c = Nat.digitChar (c.toNat - 48) := by
  have hbounds : 48 ≤ c.toNat ∧ c.toNat ≤ 57 := by
    simp only [Char.isDigit, Bool.and_eq_true, decide_eq_true_eq] at h
    exact h
  refine ⟨by omega, ?_⟩
  rw [← Char.toNat_inj, Nat.toNat_digitChar_of_lt_ten (by omega)]
  omega

/-- Some digits spell a number with no more digits. -/
theorem ofDigitChars_lt {cs : List Char} (h : ∀ c ∈ cs, c.isDigit = true) :
    Nat.ofDigitChars 10 cs 0 < 10 ^ cs.length := by
  induction cs with
  | nil => simp
  | cons c cs ih =>
    obtain ⟨hc, hcs⟩ := List.forall_mem_cons.mp h
    have hdigit := (digitChar_of_isDigit hc).1
    have hrest := ih hcs
    rw [Nat.ofDigitChars_cons, Nat.ofDigitChars_eq_ofDigitChars_zero, List.length_cons,
      Nat.pow_succ]
    show 10 ^ cs.length * (10 * 0 + (c.toNat - 48)) + Nat.ofDigitChars 10 cs 0 < _
    have hle : 10 ^ cs.length * (10 * 0 + (c.toNat - 48)) ≤ 10 ^ cs.length * 9 :=
      Nat.mul_le_mul_left _ (by omega)
    omega

/-- Digits of equal count that spell the same number are the same. -/
theorem ofDigitChars_inj {cs ds : List Char} (hcs : ∀ c ∈ cs, c.isDigit = true)
    (hds : ∀ d ∈ ds, d.isDigit = true) (hlength : cs.length = ds.length)
    (h : Nat.ofDigitChars 10 cs 0 = Nat.ofDigitChars 10 ds 0) : cs = ds := by
  induction cs generalizing ds with
  | nil => exact (List.length_eq_zero_iff.mp hlength.symm).symm
  | cons c cs ih =>
    cases ds with
    | nil => cases hlength
    | cons d ds =>
      obtain ⟨hc, hcs⟩ := List.forall_mem_cons.mp hcs
      obtain ⟨hd, hds⟩ := List.forall_mem_cons.mp hds
      have hlength : cs.length = ds.length := Nat.succ.inj hlength
      have hrest := ofDigitChars_lt hcs
      have hrest' := ofDigitChars_lt hds
      rw [Nat.ofDigitChars_cons, Nat.ofDigitChars_cons, Nat.ofDigitChars_eq_ofDigitChars_zero,
        @Nat.ofDigitChars_eq_ofDigitChars_zero ds, hlength] at h
      rw [hlength] at hrest
      -- The first digit is the quotient by a power of ten, and the others are the remainder.
      have hpos : 0 < 10 ^ ds.length := Nat.pow_pos (by decide)
      have hquotient := congrArg (· / 10 ^ ds.length) h
      have hremainder := congrArg (· % 10 ^ ds.length) h
      simp only [Nat.mul_add_div hpos, Nat.div_eq_of_lt hrest, Nat.div_eq_of_lt hrest',
        Nat.mul_add_mod, Nat.mod_eq_of_lt hrest, Nat.mod_eq_of_lt hrest'] at hquotient hremainder
      have hfirst : c.toNat - 48 = d.toNat - 48 := by
        have hvalue : 10 * 0 + (c.toNat - 48) + 0 = 10 * 0 + (d.toNat - 48) + 0 := hquotient
        omega
      rw [(digitChar_of_isDigit hc).2, (digitChar_of_isDigit hd).2, hfirst,
        ih hcs hds hlength hremainder]

/-- The digits in front count for as many tens as digits follow. -/
theorem ofDigitChars_append_zero (cs ds : List Char) : Nat.ofDigitChars 10 (cs ++ ds) 0 =
    10 ^ ds.length * Nat.ofDigitChars 10 cs 0 + Nat.ofDigitChars 10 ds 0 := by
  rw [Nat.ofDigitChars_append, Nat.ofDigitChars_eq_ofDigitChars_zero]

/-- Zeros alone are zero. -/
theorem ofDigitChars_replicate_zero (k : Nat) :
    Nat.ofDigitChars 10 (List.replicate k '0') 0 = 0 := by
  induction k with
  | zero => rfl
  | succ k ih => rw [List.replicate_succ, Nat.ofDigitChars_cons]; exact ih

end RecordFilter
