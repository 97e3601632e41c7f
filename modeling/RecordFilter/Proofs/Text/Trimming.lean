import Mathlib.Data.List.Basic
import RecordFilter.Text.Blank

/-!
# `RecordFilter.Proofs.Text.Trimming`: what is left between blanks

`TrimsTo` says what trimming means, without a direction in which the characters are looked at:
blanks stand on both sides of what is left, and what is left has no blank at either end.

* `trimChars_eq_iff`: `trimChars` gives exactly that.
* `trimChars_eq_nil_iff`: nothing is left of blanks alone.
-/

set_option autoImplicit false

namespace RecordFilter.Text

/-- The characters are the core with blanks around it, and the core has no blank at either end. -/
structure TrimsTo (cs core : List Char) : Prop where
  around : ∃ before after, cs = before ++ (core ++ after) ∧ (∀ c ∈ before, isBlank c = true) ∧
    ∀ c ∈ after, isBlank c = true
  first : ∀ c ∈ core.head?, isBlank c = false
  last : ∀ c ∈ core.getLast?, isBlank c = false

variable {cs core : List Char}

/-- No blank is dropped where there is none in front. -/
theorem dropWhile_isBlank_eq_self (h : ∀ c ∈ cs.head?, isBlank c = false) :
    cs.dropWhile isBlank = cs := by
  cases cs with
  | nil => rfl
  | cons c cs => simp [h c rfl]

/-- What is left of blanks in front begins with no blank. -/
theorem isBlank_head?_dropWhile (cs : List Char) :
    ∀ c ∈ (cs.dropWhile isBlank).head?, isBlank c = false := by
  intro c hc
  have h := List.head?_dropWhile_not isBlank cs
  rw [Option.mem_def.mp hc] at h
  simpa using h

/-- The run of blanks at the front consists of blanks. -/
theorem isBlank_of_mem_takeWhile (cs : List Char) :
    ∀ c ∈ cs.takeWhile isBlank, isBlank c = true :=
  List.all_eq_true.mp List.all_takeWhile

/-- What trimming leaves begins and ends with no blank, and only blanks were around it. -/
theorem trimsTo_trimChars (cs : List Char) : TrimsTo cs (trimChars cs) := by
  -- The blanks in front are taken off first, and then those at the end of the rest.
  have hcs := List.takeWhile_append_dropWhile (p := isBlank) (l := cs)
  have hrest : trimChars cs ++ ((cs.dropWhile isBlank).reverse.takeWhile isBlank).reverse =
      cs.dropWhile isBlank := by
    show ((cs.dropWhile isBlank).reverse.dropWhile isBlank).reverse ++ _ = _
    rw [← List.reverse_append, List.takeWhile_append_dropWhile, List.reverse_reverse]
  constructor
  · refine ⟨cs.takeWhile isBlank, ((cs.dropWhile isBlank).reverse.takeWhile isBlank).reverse, ?_,
      isBlank_of_mem_takeWhile cs, fun c hc => ?_⟩
    · rw [hrest, hcs]
    · exact isBlank_of_mem_takeWhile _ c (List.mem_reverse.mp hc)
  · intro c hc
    refine isBlank_head?_dropWhile cs c ?_
    rw [← hrest, List.head?_append, Option.mem_def.mp hc]
    rfl
  · intro c hc
    rw [trimChars, List.getLast?_reverse] at hc
    exact isBlank_head?_dropWhile _ c hc

/-- What is left between blanks is what trimming gives. -/
theorem TrimsTo.trimChars_eq (h : TrimsTo cs core) : trimChars cs = core := by
  obtain ⟨⟨before, after, rfl, hbefore, hafter⟩, hfirst, hlast⟩ := h
  rw [trimChars, List.dropWhile_append_of_pos hbefore]
  cases core with
  | nil =>
    have hempty : (after ++ []).dropWhile isBlank = [] := List.dropWhile_append_of_pos hafter
    rw [List.append_nil] at hempty
    simp [hempty]
  | cons c rest =>
    have hfront : (c :: rest ++ after).dropWhile isBlank = c :: rest ++ after :=
      dropWhile_isBlank_eq_self hfirst
    have hback : (c :: rest).reverse.dropWhile isBlank = (c :: rest).reverse := by
      refine dropWhile_isBlank_eq_self ?_
      rw [List.head?_reverse]
      exact hlast
    rw [hfront, List.reverse_append, List.dropWhile_append_of_pos, hback, List.reverse_reverse]
    exact fun d hd => hafter d (List.mem_reverse.mp hd)

/-- Trimming gives the only core that the characters have between blanks. -/
theorem trimChars_eq_iff : trimChars cs = core ↔ TrimsTo cs core := by
  constructor
  · intro h
    rw [← h]
    exact trimsTo_trimChars cs
  · exact TrimsTo.trimChars_eq

/-- Nothing is left of blanks alone. -/
theorem trimChars_eq_nil_iff : trimChars cs = [] ↔ ∀ c ∈ cs, isBlank c = true := by
  rw [trimChars_eq_iff]
  constructor
  · intro h
    obtain ⟨before, after, rfl, hbefore, hafter⟩ := h.around
    intro c hc
    rcases List.mem_append.mp hc with hc | hc
    · exact hbefore c hc
    · exact hafter c hc
  · intro h
    exact ⟨⟨cs, [], by simp, h, by simp⟩, by simp, by simp⟩

end RecordFilter.Text
