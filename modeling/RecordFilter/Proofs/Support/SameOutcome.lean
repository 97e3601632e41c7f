/-!
# `RecordFilter.Proofs.Support.SameOutcome`: two runs side by side

`SameOutcome R x y` says that two computations fail with the same error, or give results that are
related by `R`. Two sequences of steps have the same outcome when each step does, with any relation
between the results on the way. The lemmas belong to no part of the library.
-/

set_option autoImplicit false

namespace RecordFilter.Proofs.Support

variable {ε α β γ δ : Type}

/-- Both computations fail with the same error, or both give a result and the results are
related. -/
inductive SameOutcome (R : α → β → Prop) : Except ε α → Except ε β → Prop
  | ok {a : α} {b : β} (h : R a b) : SameOutcome R (.ok a) (.ok b)
  | error (e : ε) : SameOutcome R (.error e) (.error e)

namespace SameOutcome

variable {R : α → β → Prop} {S : γ → δ → Prop} {x : Except ε α} {y : Except ε β}

/-- Steps with the same outcome, after steps with the same outcome. -/
theorem bind (h : SameOutcome R x y) {f : α → Except ε γ} {g : β → Except ε δ}
    (hnext : ∀ a b, R a b → SameOutcome S (f a) (g b)) :
    SameOutcome S (x >>= f) (y >>= g) := by
  cases h with
  | ok h => exact hnext _ _ h
  | error e => exact .error e

/-- A computation has the same outcome as itself. -/
theorem refl (x : Except ε α) : SameOutcome (fun a b => a = b) x x := by
  cases x with
  | ok a => exact .ok rfl
  | error e => exact .error e

/-- Computations with the same outcome go on alike when their results do. -/
theorem bind_eq (h : SameOutcome R x y) {f : α → Except ε γ} {g : β → Except ε γ}
    (hnext : ∀ a b, R a b → f a = g b) : (x >>= f) = (y >>= g) := by
  cases h with
  | ok h => exact hnext _ _ h
  | error e => rfl

end SameOutcome

end RecordFilter.Proofs.Support
