import RecordFilter.Proofs.Formula.Grammar

/-!
# `RecordFilter.Proofs.Formula.Days`: the days in a formula

The days that are written in a formula, from left to right: `Formula.days` has them as dates, and
`Phrase.days` as they stand between their quotes. `Formula.days_phrase` says that they are the same
days.
-/

set_option autoImplicit false

namespace RecordFilter

/-! ### Days as dates -/

/-- The days that a test compares its column with. -/
def Atom.days : Atom → List Date
  | .sameDay _ d | .notSameDay _ d | .before _ d | .after _ d => [d]
  | .within _ start stop => [start, stop]
  | .blank _ | .notBlank _ | .checked _ _ | .compare _ _ _ | .found _ _ | .notFound _ _ => []

namespace Formula

mutual

/-- The days in a formula. -/
def days : Formula → List Date
  | .atom a => a.days
  | .group _ parts => daysAll parts

/-- The days in formulas. -/
def daysAll : List Formula → List Date
  | [] => []
  | f :: rest => days f ++ daysAll rest

end

/-- The days of formulas stand in the order of the formulas. -/
@[simp]
theorem daysAll_append (fs gs : List Formula) :
    daysAll (fs ++ gs) = daysAll fs ++ daysAll gs := by
  induction fs with
  | nil => rfl
  | cons f rest ih => simp [daysAll, ih]

/-- The days in tests that stand side by side. -/
theorem daysAll_map_atom (atoms : List Atom) :
    daysAll (atoms.map .atom) = atoms.flatMap Atom.days := by
  induction atoms with
  | nil => rfl
  | cons a rest ih => simp [daysAll, days, ih]

end Formula

/-! ### Days as they are written -/

/-- The days of a clause, without their quotes. -/
def Clause.days : Clause → List String
  | .sameDay _ d | .notSameDay _ d | .before _ d | .after _ d => [d]
  | .within _ start stop => [start, stop]
  | .blank _ | .notBlank _ | .checked _ _ | .compare _ _ _ | .found _ _ | .notFound _ _ => []

mutual

/-- The days in a phrase, without their quotes. -/
def Phrase.days : Phrase → List String
  | .clause t => t.days
  | .group _ parts => Phrase.daysAll parts

/-- The days in phrases, without their quotes. -/
def Phrase.daysAll : List Phrase → List String
  | [] => []
  | e :: rest => e.days ++ Phrase.daysAll rest

end

/-- A test is written with the texts of its days. -/
theorem Atom.days_clause (a : Atom) : a.clause.days = a.days.map Date.text := by
  cases a <;> rfl

mutual

/-- The phrase of a formula has the days of the formula, as text. -/
theorem Formula.days_phrase : ∀ f : Formula, f.phrase.days = f.days.map Date.text
  | .atom a => a.days_clause
  | .group _ parts => Formula.daysAll_phrases parts

/-- The phrases of formulas have the days of the formulas, as text. -/
theorem Formula.daysAll_phrases : ∀ fs : List Formula,
    Phrase.daysAll (Formula.phrases fs) = (Formula.daysAll fs).map Date.text
  | [] => rfl
  | f :: rest => by
    rw [Formula.phrases, Phrase.daysAll, Formula.daysAll, List.map_append, Formula.days_phrase f,
      Formula.daysAll_phrases rest]

end

end RecordFilter
