import RecordFilter.Toml.Reader

/-!
# `RecordFilter.Proofs.Toml.Reading`: what readers yield

`Reader.Yields P p` says that whatever `p` reads has the property `P`, from any characters. There
is one lemma for each way of putting readers together, so a grammar has a property of its values
when the readers of its parts have it: what a sequence yields is what its last reader yields, and
`many_yields` and `separated_yields` take a property of the items to the list of them.
-/

set_option autoImplicit false

namespace RecordFilter.Toml.Reader

variable {α β : Type} {P : α → Prop} {Q : β → Prop}

/-- Whatever the reader reads has the property. -/
def Yields (P : α → Prop) (p : Reader α) : Prop :=
  ∀ ⦃s : List Char⦄ ⦃a : α⦄ ⦃rest : List Char⦄, p s = some (a, rest) → P a

namespace Yields

/-- A reader that yields something stronger. -/
theorem mono {P' : α → Prop} {p : Reader α} (hp : Yields P p) (h : ∀ a, P a → P' a) :
    Yields P' p :=
  fun _ a _ hread => h a (hp hread)

/-- Of any reader there is nothing to show. -/
theorem trivial (p : Reader α) : Yields (fun _ => True) p :=
  fun _ _ _ _ => True.intro

/-- A reader that reads nothing yields what it is given. -/
theorem pure {a : α} (h : P a) : Yields P (Pure.pure a : Reader α) := by
  intro s b rest hread
  cases hread
  exact h

/-- A reader that fails yields nothing. -/
theorem failure : Yields P (Alternative.failure : Reader α) :=
  nofun

/-- The second of two readers decides, and may rely on what the first one yields. -/
theorem bind {p : Reader α} {k : α → Reader β} (hp : Yields P p)
    (hk : ∀ a, P a → Yields Q (k a)) : Yields Q (p >>= k) := by
  intro s b rest hread
  obtain ⟨⟨a, middle⟩, hfirst, hsecond⟩ := Option.bind_eq_some_iff.mp hread
  exact hk a (hp hfirst) hsecond

/-- The second of two readers decides. -/
theorem after {p : Reader α} {k : α → Reader β} (hk : ∀ a, Yields Q (k a)) : Yields Q (p >>= k) :=
  (trivial p).bind fun a _ => hk a

/-- What the first of two readers yields is dropped. -/
theorem seqRight {p : Reader α} {q : Reader β} (hq : Yields Q q) : Yields Q (p *> q) :=
  after fun _ => hq

/-- What a reader yields may be changed. -/
theorem map {p : Reader α} {f : α → β} (hp : Yields P p) (hf : ∀ a, P a → Q (f a)) :
    Yields Q (f <$> p) :=
  hp.bind fun a ha => pure (hf a ha)

/-- What the second of two readers yields is dropped. -/
theorem seqLeft {p : Reader α} {q : Reader β} (hp : Yields P p) : Yields P (p <* q) :=
  hp.bind fun _ ha => after fun _ => pure ha

/-- Of two alternatives either may be read. -/
theorem orElse {p q : Reader α} (hp : Yields P p) (hq : Yields P q) : Yields P (p <|> q) := by
  intro s a rest hread
  replace hread : (p s <|> q s) = some (a, rest) := hread
  cases hfirst : p s with
  | none => exact hq (by simpa [hfirst] using hread)
  | some read => exact hp (hfirst.trans (by simpa [hfirst] using hread))

/-- Of two branches either may be taken. -/
theorem ite {c : Prop} [Decidable c] {p q : Reader α} (hp : Yields P p) (hq : Yields P q) :
    Yields P (if c then p else q) := by
  split
  · exact hp
  · exact hq

end Yields

/-! ### Optional parts and lists -/

/-- An optional part has the property, if it is there. -/
theorem opt_yields {p : Reader α} (hp : Yields P p) : Yields (fun o => ∀ a ∈ o, P a) (opt p) := by
  refine .orElse (hp.map fun a ha => ?_) (.pure (by simp))
  rintro b ⟨⟩
  exact ha

/-- All items of a run have the property. The proof follows the reader, which goes on as long as the
rest gets shorter. -/
theorem manyFrom_yields {p : Reader α} (hp : Yields P p) (s : List Char) :
    ∀ a ∈ (manyFrom p s).1, P a := by
  fun_induction manyFrom p s with
  | case1 s a rest hread hshorter r ih => exact List.forall_mem_cons.mpr ⟨hp hread, ih⟩
  | case2 s a rest hread hlonger => simp
  | case3 s hread => simp

/-- A reader of a run yields items with the property. -/
theorem many_yields {p : Reader α} (hp : Yields P p) :
    Yields (fun as => ∀ a ∈ as, P a) (many p) := by
  intro s as rest hread
  obtain rfl : (manyFrom p s).1 = as := by
    have hresult : manyFrom p s = (as, rest) := Option.some.inj hread
    rw [hresult]
  exact manyFrom_yields hp s

/-- Items with separators have the property, the first one as well as the others. -/
theorem separated_yields {p : Reader α} {separator : Reader Unit} (hp : Yields P p) :
    Yields (fun as => ∀ a ∈ as, P a) (separated p separator) :=
  hp.bind fun _ hfirst => (many_yields hp.seqRight).bind fun _ hothers =>
    .pure (List.forall_mem_cons.mpr ⟨hfirst, hothers⟩)

/-- A list of such items may be missing. -/
theorem opt_separated_yields {p : Reader α} {separator : Reader Unit} (hp : Yields P p) :
    Yields (fun o => ∀ a ∈ o.getD [], P a) (opt (separated p separator)) := by
  refine (opt_yields (separated_yields hp)).mono fun o ho => ?_
  cases o with
  | none => simp
  | some as => exact ho as rfl

end RecordFilter.Toml.Reader
