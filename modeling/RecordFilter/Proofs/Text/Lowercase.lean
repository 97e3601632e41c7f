import Mathlib.Data.List.Forall2
import RecordFilter.Text.Lowercase

/-!
# `RecordFilter.Proofs.Text.Lowercase`: lower case of ASCII characters and of sigma

The table of lower case letters does to ASCII characters what `Char.toLower` does:
`lowerChar_of_ascii`. Of other characters only the capital sigma matters here. It has two small
letters, and the one for the end of a word is never chosen. `IsLowerCase` allows both, and
`IsLowerCase.forall₂` says that this is all that two lower cases of a text can differ in.
-/

set_option autoImplicit false

namespace RecordFilter.Text

/-- The letter that a capital sigma becomes. -/
def smallSigma : Char :=
  Char.ofNat 0x3C3

/-- The letter that a capital sigma becomes at the end of a word. -/
def finalSigma : Char :=
  Char.ofNat 0x3C2

/-- The characters are a lower case of the character. -/
inductive LowersTo (c : Char) : List Char → Prop
  | usual : LowersTo c (lowerChar c)
  | wordEnd (h : c = Char.ofNat 0x3A3) : LowersTo c [finalSigma]

/-- The characters are a lower case of the text, character by character. -/
def IsLowerCase (s : String) (lower : List Char) : Prop :=
  ∃ parts, List.Forall₂ LowersTo s.toList parts ∧ lower = parts.flatten

/-! ### ASCII -/

/-- Only the first run of capital letters is in ASCII. -/
theorem ascii_le_of_mem_tail_lowerRuns : ∀ run ∈ lowerRuns.tail, 128 ≤ run.1 := by
  decide +kernel

/-- In ASCII the small letters stand 32 places behind the capital ones. -/
theorem toLower_ofNat : ∀ n < 128, (Char.ofNat n).toLower =
    if 65 ≤ n ∧ n ≤ 90 then Char.ofNat (n + 32) else Char.ofNat n := by
  decide

/-- A character of ASCII stays in ASCII when it is put in lower case. -/
theorem toNat_toLower_ofNat_lt : ∀ n < 128, (Char.ofNat n).toLower.toNat < 128 := by
  decide

/-- A character that is not in ASCII has no other case in ASCII. -/
theorem ascii_of_toLower_eq {c d : Char} (h : c.toLower = d.toLower) (hd : d.toNat < 128) :
    c.toNat < 128 := by
  have hlower := toNat_toLower_ofNat_lt d.toNat hd
  rw [Char.ofNat_toNat, ← h] at hlower
  by_contra hc
  unfold Char.toLower at hlower
  split at hlower
  · rename_i hcapital
    have hle : c.toNat ≤ 'Z'.toNat := hcapital.2
    exact hc (Nat.lt_of_le_of_lt hle (by decide))
  · exact hc hlower

/-- The table does to a character of ASCII what `Char.toLower` does. -/
theorem lowerChar_of_ascii {c : Char} (h : c.toNat < 128) : lowerChar c = [c.toLower] := by
  have hlower := toLower_ofNat c.toNat h
  rw [Char.ofNat_toNat] at hlower
  -- The first run decides: all others begin outside of ASCII.
  have hruns : lowerRuns = (0x41, 0x5A, 1, 32) :: lowerRuns.tail := rfl
  rw [lowerChar, if_neg (by omega), hruns, List.find?_cons, List.find?_eq_none.mpr ?hrest, hlower]
  case hrest =>
    intro run hrun
    have hfirst := ascii_le_of_mem_tail_lowerRuns run hrun
    simp [Nat.not_le_of_lt (Nat.lt_of_lt_of_le h hfirst)]
  simp only [Nat.mod_one, beq_self_eq_true, Bool.and_true, ← Bool.decide_and]
  by_cases hcapital : 65 ≤ c.toNat ∧ c.toNat ≤ 90
  · rw [decide_eq_true hcapital, if_pos hcapital]
    rfl
  · rw [decide_eq_false hcapital, if_neg hcapital]

/-- A text in ASCII is put in lower case character by character. -/
theorem flatMap_lowerChar_of_ascii {cs : List Char} (h : ∀ c ∈ cs, c.toNat < 128) :
    cs.flatMap lowerChar = cs.map Char.toLower := by
  rw [List.flatMap_congr fun c hc => lowerChar_of_ascii (h c hc), ← List.map_eq_flatMap]

/-! ### Sigma -/

/-- Two lower cases of a text differ at most in the letter for a capital sigma. -/
theorem IsLowerCase.forall₂ {s : String} {lower : List Char} (h : IsLowerCase s lower) :
    List.Forall₂ (fun c d => c = d ∨ c = smallSigma ∧ d = finalSigma) (lowercase s) lower := by
  obtain ⟨parts, hparts, rfl⟩ := h
  rw [lowercase, List.flatMap_def]
  refine List.rel_flatten ?_
  rw [List.forall₂_map_left_iff]
  refine hparts.imp fun c part hpart => ?_
  cases hpart with
  | usual => exact List.forall₂_same.mpr fun _ _ => .inl rfl
  | wordEnd hc =>
    rw [hc, show lowerChar (Char.ofNat 0x3A3) = [smallSigma] by decide]
    exact .cons (.inr ⟨rfl, rfl⟩) .nil

end RecordFilter.Text
