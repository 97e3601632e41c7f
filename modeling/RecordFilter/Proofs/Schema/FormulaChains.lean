import Mathlib.Data.List.Forall2
import Mathlib.Logic.Function.Iterate
import RecordFilter.Schema.Normalize

/-!
# `RecordFilter.Proofs.Schema.FormulaChains`: how far formulas are resolved

The result of a formula can be a formula with a result of its own, and so on. `Field.chainLength`
counts the results that follow one another in a field. Resolving a field takes the first of them
away and nothing else, so a field that is no formula with a result stays as it is, and as many
steps as there are results lead to a field without one.

* `Field.chainLength_resolveFormula`: one step makes the chain one result shorter.
* `Field.resolveFormula_eq_self_iff`: a field is its own result only when its chain is empty.
* `iterate_normalizeFields`: normalizing a list again and again resolves each of its fields as
  often.
* `normalizeFields_iterate`: what one step does to a list, and how many steps are left to do.
-/

set_option autoImplicit false

namespace RecordFilter

/-- A type with options is a formula that declares the result. -/
def DeclaresResult (type : FieldType) (options : Option FieldOptions) (r : FormulaResult) : Prop :=
  type = .formula ∧ ∃ o, options = some o ∧ o.result = some r

mutual

/-- How many results follow one another in the options of a formula. -/
def FieldOptions.chainLength : FieldOptions → Nat
  | ⟨_, none, _⟩ => 0
  | ⟨_, some r, _⟩ => r.chainLength + 1

/-- How many results follow on a result. Only a formula has one. -/
def FormulaResult.chainLength : FormulaResult → Nat
  | ⟨.formula, some o⟩ => o.chainLength
  | _ => 0

end

/-- How many results follow one another in a field. -/
def Field.chainLength (f : Field) : Nat :=
  FormulaResult.chainLength ⟨f.type, f.options⟩

/-- The length of the longest chain of results in one of the fields. -/
def longestChain (fields : List Field) : Nat :=
  (fields.map Field.chainLength).foldr max 0

/-- The second field is the first one with the type and the options of the result that it
declares, or as it is if it declares none. -/
structure Field.ResolvesTo (f g : Field) : Prop where
  id : g.id = f.id
  name : g.name = f.name
  result : ∀ r, DeclaresResult f.type f.options r →
    g.type = r.type ∧ g.options = r.options ∧ g.description = some (f.description.getD "")
  other : (∀ r, ¬ DeclaresResult f.type f.options r) → g = f

variable {type : FieldType} {options : Option FieldOptions} {r : FormulaResult}

/-! ### Chains -/

/-- A formula has one result more in its chain than the result that it declares. -/
theorem DeclaresResult.chainLength_eq (h : DeclaresResult type options r) :
    FormulaResult.chainLength ⟨type, options⟩ =
      FormulaResult.chainLength ⟨r.type, r.options⟩ + 1 := by
  obtain ⟨resultType, resultOptions⟩ := r
  obtain ⟨rfl, ⟨choices, result, extra⟩, rfl, hresult⟩ := h
  cases hresult
  rw [FormulaResult.chainLength, FieldOptions.chainLength]

/-- A chain is empty exactly where no result is declared. -/
theorem chainLength_eq_zero_iff :
    FormulaResult.chainLength ⟨type, options⟩ = 0 ↔ ∀ r, ¬ DeclaresResult type options r := by
  constructor
  · intro hzero r hr
    rw [hr.chainLength_eq] at hzero
    cases hzero
  · intro hnone
    unfold FormulaResult.chainLength
    split
    · rename_i o heq
      cases heq
      obtain ⟨choices, result, extra⟩ := o
      cases result with
      | none => rw [FieldOptions.chainLength]
      | some r => exact absurd ⟨rfl, _, rfl, rfl⟩ (hnone r)
    · rfl

/-- A chain of two results is one where the declared result declares another one. -/
theorem two_le_chainLength_iff : 2 ≤ FormulaResult.chainLength ⟨type, options⟩ ↔
    ∃ r inner, DeclaresResult type options r ∧ DeclaresResult r.type r.options inner := by
  constructor
  · intro htwo
    -- A chain of two is not empty, and neither is the one of its first result.
    have hsome : ¬ ∀ r, ¬ DeclaresResult type options r := by
      rw [← chainLength_eq_zero_iff]
      omega
    obtain ⟨r, hr⟩ := not_forall_not.mp hsome
    have hinner : ¬ ∀ inner, ¬ DeclaresResult r.type r.options inner := by
      rw [← chainLength_eq_zero_iff]
      have hlength := hr.chainLength_eq
      omega
    obtain ⟨inner, hinner⟩ := not_forall_not.mp hinner
    exact ⟨r, inner, hr, hinner⟩
  · intro ⟨r, inner, hr, hinner⟩
    rw [hr.chainLength_eq, hinner.chainLength_eq]
    omega

/-! ### Fields -/

namespace Field

/-- A field counts as a result when it is a formula whose options declare one. -/
theorem formulaResult?_eq_some_iff {f : Field} :
    f.formulaResult? = some r ↔ DeclaresResult f.type f.options r := by
  unfold formulaResult? DeclaresResult
  split
  · rename_i htype
    rw [Option.bind_eq_some_iff]
    exact (and_iff_right htype).symm
  · rename_i htype
    simp [htype]

/-- Resolving a field takes the result that it declares. -/
theorem resolvesTo_resolveFormula (f : Field) : f.ResolvesTo f.resolveFormula := by
  unfold resolveFormula
  split
  · rename_i result hresult
    have hdeclares := formulaResult?_eq_some_iff.mp hresult
    refine ⟨rfl, rfl, ?_, ?_⟩
    · intro r hr
      rw [formulaResult?_eq_some_iff.mpr hr] at hresult
      cases hresult
      exact ⟨rfl, rfl, rfl⟩
    · intro hnone
      exact absurd hdeclares (hnone result)
  · rename_i hnone
    refine ⟨rfl, rfl, ?_, fun _ => rfl⟩
    intro r hr
    rw [formulaResult?_eq_some_iff.mpr hr] at hnone
    cases hnone

/-- Resolving a field takes one result off its chain. -/
theorem chainLength_resolveFormula (f : Field) :
    f.resolveFormula.chainLength = f.chainLength - 1 := by
  have hresolves := f.resolvesTo_resolveFormula
  by_cases hdeclares : ∃ r, DeclaresResult f.type f.options r
  · obtain ⟨r, hr⟩ := hdeclares
    obtain ⟨htype, hoptions, -⟩ := hresolves.result r hr
    rw [chainLength, chainLength, hr.chainLength_eq, htype, hoptions, Nat.add_sub_cancel]
  · have hnone := not_exists.mp hdeclares
    have hzero : f.chainLength = 0 := chainLength_eq_zero_iff.mpr hnone
    rw [hresolves.other hnone, hzero]

/-- A field is its own result only when there is no result in it: otherwise its chain would be
shorter than itself. -/
theorem resolveFormula_eq_self_iff (f : Field) : f.resolveFormula = f ↔ f.chainLength = 0 := by
  constructor
  · intro h
    have hlength := f.chainLength_resolveFormula
    rw [h] at hlength
    omega
  · intro hzero
    exact f.resolvesTo_resolveFormula.other (chainLength_eq_zero_iff.mp hzero)

/-- Resolving a field several times takes as many results off its chain. -/
theorem chainLength_iterate (f : Field) (k : Nat) :
    (resolveFormula^[k] f).chainLength = f.chainLength - k := by
  induction k with
  | zero => rfl
  | succ k ih =>
    rw [Function.iterate_succ_apply', chainLength_resolveFormula, ih]
    omega

end Field

/-! ### Lists of fields -/

/-- Normalizing a list several times resolves each of its fields as often. -/
theorem iterate_normalizeFields (fields : List Field) (k : Nat) :
    normalizeFields^[k] fields = fields.map Field.resolveFormula^[k] := by
  induction k with
  | zero => exact (List.map_id fields).symm
  | succ k ih =>
    rw [Function.iterate_succ_apply', ih, normalizeFields, List.map_map,
      Function.iterate_succ']

/-- The longest chain bounds the chains of all fields. -/
theorem longestChain_le_iff {fields : List Field} {k : Nat} :
    longestChain fields ≤ k ↔ ∀ f ∈ fields, f.chainLength ≤ k := by
  unfold longestChain
  induction fields with
  | nil => simp
  | cons f rest ih =>
    rw [List.map_cons, List.foldr_cons, Nat.max_le, ih, List.forall_mem_cons]

/-- After some steps, one more changes nothing exactly when no chain was longer than that. -/
theorem normalizeFields_iterate_eq_iff {fields : List Field} {k : Nat} :
    normalizeFields (normalizeFields^[k] fields) = normalizeFields^[k] fields ↔
      longestChain fields ≤ k := by
  rw [longestChain_le_iff, iterate_normalizeFields, normalizeFields, List.map_map,
    List.map_inj_left]
  refine forall₂_congr fun f _ => ?_
  rw [Function.comp_apply, Field.resolveFormula_eq_self_iff, Field.chainLength_iterate]
  omega

/-- As many steps as the longest chain has results leave no field with a declared result. -/
theorem not_declaresResult_of_mem_iterate {fields : List Field} {f : Field}
    (hf : f ∈ normalizeFields^[longestChain fields] fields) (r : FormulaResult) :
    ¬ DeclaresResult f.type f.options r := by
  rw [iterate_normalizeFields, List.mem_map] at hf
  obtain ⟨g, hg, rfl⟩ := hf
  have hlength : g.chainLength ≤ longestChain fields :=
    longestChain_le_iff.mp (Nat.le_refl _) g hg
  have hzero : (Field.resolveFormula^[longestChain fields] g).chainLength = 0 := by
    rw [g.chainLength_iterate]
    omega
  exact chainLength_eq_zero_iff.mp hzero r

/-- Normalizing a list takes the declared result of each formula in it, in order, and leaves all
other fields. A second time changes nothing exactly when no declared result declares another one.
As many times as the longest chain has results leave no declared result and nothing to do, and
fewer times leave something to do. -/
theorem normalizeFields_iterate (fields : List Field) :
    List.Forall₂ Field.ResolvesTo fields (normalizeFields fields) ∧
      (normalizeFields (normalizeFields fields) = normalizeFields fields ↔
        ¬ ∃ f ∈ fields, ∃ r inner, DeclaresResult f.type f.options r ∧
          DeclaresResult r.type r.options inner) ∧
      (∀ f ∈ normalizeFields^[longestChain fields] fields, ∀ r,
        ¬ DeclaresResult f.type f.options r) ∧
      normalizeFields (normalizeFields^[longestChain fields] fields) =
        normalizeFields^[longestChain fields] fields ∧
      ∀ k < longestChain fields,
        normalizeFields (normalizeFields^[k] fields) ≠ normalizeFields^[k] fields := by
  refine ⟨?_, ?_, fun f hf => not_declaresResult_of_mem_iterate hf,
    normalizeFields_iterate_eq_iff.mpr (Nat.le_refl _), ?_⟩
  · rw [normalizeFields, List.forall₂_map_right_iff, List.forall₂_same]
    exact fun f _ => f.resolvesTo_resolveFormula
  · -- Once is enough when no chain has a second result.
    have honce : normalizeFields (normalizeFields^[1] fields) = normalizeFields^[1] fields ↔
        longestChain fields ≤ 1 := normalizeFields_iterate_eq_iff
    rw [Function.iterate_one, longestChain_le_iff] at honce
    rw [honce, not_exists]
    refine forall_congr' fun f => ?_
    rw [not_and, ← two_le_chainLength_iff, Nat.not_le]
    exact imp_congr_right fun _ => Nat.lt_succ_iff.symm
  · intro k hk heq
    exact Nat.not_le_of_lt hk (normalizeFields_iterate_eq_iff.mp heq)

/-- A formula whose result is a formula of numbers is a number after two steps. -/
example :
    let number : FormulaResult := ⟨.number, none⟩
    let inner : FormulaResult := ⟨.formula, some ⟨[], some number, []⟩⟩
    let f : Field := ⟨"f", "F", .formula, none, some ⟨[], some inner, []⟩⟩
    longestChain [.ofType "n" "N" .number, f] = 2 ∧
      normalizeFields^[2] [f] = [⟨"f", "F", .number, some "", none⟩] :=
  ⟨rfl, rfl⟩

end RecordFilter
