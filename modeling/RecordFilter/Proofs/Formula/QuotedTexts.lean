import RecordFilter.Proofs.Formula.Reader
import RecordFilter.Proofs.Formula.Written

/-!
# `RecordFilter.Proofs.Formula.QuotedTexts`: a quoted text says where it ends

A quoted text is followed by more of the formula, and its own characters may be quotes and
backslashes. `Text.unquote?` reads the quoted text at the beginning of a text, and gives what it
stands for and what follows. `Text.quote_delimits_itself` is the result: a reader finds the end
of a quoted text without a look at what comes after it.

* `Reader.quoted?_eq_some_iff`: the reader of a body goes up to the first quote without a mark.
* `Text.unquote?_eq_some_iff`: what is read is a quoted text of the grammar, and each of them is
  read.
* `Text.unquote?_append`: what is read from a text is read from every longer one. With
  `Text.unquote?_quote_append` no part of a quoted text can be read that ends before it.
-/

set_option autoImplicit false

namespace RecordFilter

/-- The reader stops at the quote that closes a body, and reads nothing where no quote does. -/
theorem Reader.quoted?_eq_some_iff {cs value r : List Char} :
    Reader.quoted? cs = some (value, r) ↔
      ∃ body, QuotedBody value body ∧ cs = body ++ '"' :: r := by
  constructor
  · intro h
    fun_induction Reader.quoted? cs generalizing value with
    | case1 => cases h
    | case2 cs =>
      cases h
      exact ⟨[], .nil, rfl⟩
    | case3 c cs ih =>
      obtain ⟨⟨rest, _⟩, hread, h⟩ := Option.map_eq_some_iff.mp h
      cases h
      obtain ⟨body, hbody, rfl⟩ := ih hread
      exact ⟨'\\' :: c :: body, .marked c hbody, rfl⟩
    | case4 c cs hquote hmark ih =>
      obtain ⟨⟨rest, _⟩, hread, h⟩ := Option.map_eq_some_iff.mp h
      cases h
      obtain ⟨body, hbody, rfl⟩ := ih hread
      -- A backslash is plain only at the end of the text, and the closing quote is still to come.
      have hplain : c ≠ '\\' := by
        intro hc
        cases body with
        | nil => exact hmark _ _ hc rfl
        | cons d body => exact hmark _ _ hc rfl
      exact ⟨c :: body, .plain hquote hplain hbody, rfl⟩
  · rintro ⟨body, hbody, rfl⟩
    exact Reader.quoted?_append hbody r

namespace Text

/-- What the quoted text at the beginning of the text stands for, and the text after it. -/
def unquote? (text : String) : Option (String × String) :=
  match text.toList with
  | '"' :: cs => (Reader.quoted? cs).map fun r => (String.ofList r.1, String.ofList r.2)
  | _ => none

variable {text later s rest : String}

/-- A quoted text of the grammar is read, and nothing else. -/
theorem unquote?_eq_some_iff : unquote? text = some (s, rest) ↔
    ∃ cs, LiteralText (.text s) cs ∧ text.toList = cs ++ rest.toList := by
  constructor
  · intro h
    unfold unquote? at h
    split at h
    · rename_i cs htext
      obtain ⟨⟨value, r⟩, hread, h⟩ := Option.map_eq_some_iff.mp h
      cases h
      obtain ⟨body, hbody, rfl⟩ := Reader.quoted?_eq_some_iff.mp hread
      rw [← String.toList_ofList (l := value)] at hbody
      exact ⟨_, .text hbody, by simp [htext]⟩
    · cases h
  · rintro ⟨_, @⟨_, body, hbody⟩, htext⟩
    rw [unquote?, htext, List.cons_append, List.append_assoc]
    show (Reader.quoted? (body ++ '"' :: rest.toList)).map _ = _
    rw [Reader.quoted?_append hbody]
    simp

/-- A quoted text is read back, whatever follows it. -/
theorem unquote?_quote_append (s rest : String) : unquote? (quote s ++ rest) = some (s, rest) := by
  refine unquote?_eq_some_iff.mpr ⟨(quote s).toList, literalText_quote s, ?_⟩
  rw [String.toList_append]

/-- What is read does not depend on what comes later. -/
theorem unquote?_append (h : unquote? text = some (s, rest)) (later : String) :
    unquote? (text ++ later) = some (s, rest ++ later) := by
  obtain ⟨cs, hcs, htext⟩ := unquote?_eq_some_iff.mp h
  refine unquote?_eq_some_iff.mpr ⟨cs, hcs, ?_⟩
  rw [String.toList_append, htext, List.append_assoc, String.toList_append]

/-- A text begins with one quoted text at most. -/
theorem quote_append_inj {s s' t t' : String} (h : quote s ++ t = quote s' ++ t') :
    s = s' ∧ t = t' := by
  have hread := unquote?_quote_append s t
  rw [h, unquote?_quote_append] at hread
  cases hread
  exact ⟨rfl, rfl⟩

/-- Nothing is read from the beginning of a quoted text. -/
theorem unquote?_eq_none_of_append_eq_quote (h : text ++ later = quote s) (hlater : later ≠ "") :
    unquote? text = none := by
  cases hread : unquote? text with
  | none => rfl
  | some p =>
    -- The whole would leave over what is missing in the beginning.
    have hwhole := unquote?_append hread later
    rw [h, ← String.append_empty (s := quote s), unquote?_quote_append, Option.some.injEq,
      Prod.mk.injEq] at hwhole
    exact absurd (String.append_eq_empty_iff.mp hwhole.2.symm).2 hlater

/-- The beginning of a quoted text is no literal, neither a text nor a number. -/
theorem not_literalText_of_append_eq_quote (h : text ++ later = quote s) (hlater : later ≠ "")
    (l : Literal) : ¬ LiteralText l text.toList := by
  intro hl
  cases l with
  | text value =>
    have hread : unquote? text = some (value, "") :=
      unquote?_eq_some_iff.mpr ⟨text.toList, hl, by simp⟩
    rw [unquote?_eq_none_of_append_eq_quote h hlater] at hread
    cases hread
  | number digits =>
    generalize htext : text.toList = cs at hl
    cases hl with
    | number hne hnumeral =>
      obtain ⟨c, rest, hdigits⟩ := List.exists_cons_of_ne_nil hne
      have hchars := congrArg String.toList h
      rw [String.toList_append, htext, hdigits, toList_quote, quoteChars, List.cons_append,
        List.cons.injEq] at hchars
      have hc : isNumeralChar c = true := hnumeral c (by simp [hdigits])
      rw [hchars.1] at hc
      cases hc

/-- A quoted text is read back with whatever follows it left over. So no two texts have one quoted
text, no quoted text begins with another one, and no beginning of a quoted text is read as a
literal. -/
theorem quote_delimits_itself :
    (∀ s t, unquote? (quote s ++ t) = some (s, t)) ∧
      Function.Injective quote ∧
      (∀ s s' t, quote s ++ t = quote s' → s = s' ∧ t = "") ∧
      ∀ s p t, p ++ t = quote s → t ≠ "" →
        unquote? p = none ∧ ∀ l, ¬ LiteralText l p.toList := by
  refine ⟨unquote?_quote_append, ?_, ?_, ?_⟩
  · intro s s' h
    have happend : quote s ++ "" = quote s' ++ "" := by rw [h]
    exact (quote_append_inj happend).1
  · intro s s' t h
    rw [← String.append_empty (s := quote s')] at h
    exact quote_append_inj h
  · intro s p t h ht
    exact ⟨unquote?_eq_none_of_append_eq_quote h ht, not_literalText_of_append_eq_quote h ht⟩

/-- A text that ends with a quote and a backslash, before one that begins with them. Up to the
quote inside, which has a mark, its quoted text looks complete. -/
theorem quoted_quote_and_backslash :
    unquote? ("\"a\\\"\\\\\"" ++ "\"\\") = some ("a\"\\", "\"\\") ∧
      (quote "a\"\\" = "\"a\\\"\\\\\"" ∧ "a\"\\" = "a\"\\") ∧
      (quote "a\"\\" ++ "" = quote "a\"\\" ∧ "" = "") ∧
      ("\"a\\\"" ++ "\\\\\"" = quote "a\"\\" ∧ "\\\\\"" ≠ "") ∧
      unquote? "\"a\\\"" = none ∧ ∀ l, ¬ LiteralText l "\"a\\\"".toList := by
  obtain ⟨hread, hinjective, hlonger, hbeginning⟩ := quote_delimits_itself
  have hquote : quote "a\"\\" = "\"a\\\"\\\\\"" := by decide
  have hparts : "\"a\\\"" ++ "\\\\\"" = quote "a\"\\" := by decide
  have hrest : "\\\\\"" ≠ "" := by decide
  refine ⟨?_, ⟨hquote, hinjective rfl⟩, ⟨String.append_empty, ?_⟩, ⟨hparts, hrest⟩,
    hbeginning _ _ _ hparts hrest⟩
  · rw [← hquote]
    exact hread _ _
  · exact (hlonger "a\"\\" "a\"\\" "" String.append_empty).2

end Text

end RecordFilter
