import RecordFilter.Proofs.Compile.Unambiguous
import RecordFilter.Proofs.Formula.Truth

/-!
# `RecordFilter.Proofs.Compile.ListOperators`: what the list operators mean

A list operator abbreviates a group of tests, one for each value. Here the text of the group is
read back, and the truth of the reading is what the operator is called: any of the values, none of
them, all of them. The operators that deny something have the other conjunction and the negated
test, so each of them is the negation of the operator that asserts it.

* `yields_listTree_iff`: the formula of a criterion with a list operator, from the literals of its
  values.
* `holds_listTree_iff`: its truth, value by value.
* `list_operators_mean`: the five operators, and that the order of the values makes no difference.
-/

set_option autoImplicit false

namespace RecordFilter

open RecordFilter.Proofs.Support

/-- The test that a list operator makes for a value with the literal. -/
def Operator.Many.atom (name : String) (l : Literal) : Operator.Many → Atom
  | .isAnyOf => .compare .eq name l
  | .isNoneOf => .compare .ne name l
  | .hasAnyOf | .hasAllOf => .found l name
  | .hasNoneOf => .notFound l name

/-- A criterion with a list operator, alone in a group. -/
def listTree (conjunction : Conjunction) (id name : String) (op : Operator.Many) (v : Value) :
    Group :=
  ⟨conjunction, [.criterion ⟨id, name, .many op, v⟩]⟩

/-- The tree compiles to a text that holds under the assignment. -/
def Compiler.Holds (c : Compiler) (anchor : Date) (assigned : Clause → Prop) (tree : Group) :
    Prop :=
  ∃ text, c.compile tree anchor = .ok text ∧ TextHolds assigned text

/-! ### Formulas of list operators -/

section

variable {dates : DateContext} {type : ColumnType} {name : String} {op : Operator.Many}

/-- A list operator makes one test for each literal. -/
theorem atomRule_many_iff (htype : type.isSingleValued = false) {v : Value} {a : Atom} :
    AtomRule dates type name op.expansion.2 v a ↔
      ∃ l, LiteralRule type.literalShape v l ∧ a = op.atom name l := by
  -- The other rules for these operators are those of dates and checkboxes.
  have hdate : type ≠ .date := by
    rintro rfl
    cases htype
  have hcheckbox : type ≠ .checkbox := by
    rintro rfl
    cases htype
  constructor
  · intro h
    cases op with
    | isAnyOf =>
      cases h with
      | checked _ ht => exact absurd ht hcheckbox
      | sameDay ht => exact absurd ht hdate
      | found hop => rcases hop with hop | hop <;> cases hop
      | compare _ _ hl => exact ⟨_, hl, rfl⟩
    | isNoneOf =>
      cases h with
      | notSameDay ht => exact absurd ht hdate
      | found hop => rcases hop with hop | hop <;> cases hop
      | compare _ _ hl => exact ⟨_, hl, rfl⟩
    | hasAnyOf | hasAllOf =>
      cases h with
      | found _ _ hl => exact ⟨_, hl, rfl⟩
    | hasNoneOf =>
      cases h with
      | found hop => rcases hop with hop | hop <;> cases hop
      | notFound _ hl => exact ⟨_, hl, rfl⟩
  · rintro ⟨l, hl, rfl⟩
    cases op with
    | isAnyOf | isNoneOf => exact .compare _ htype hl
    | hasAnyOf | hasAllOf => exact .found (.inl rfl) htype hl
    | hasNoneOf => exact .notFound htype hl

/-- The tests of a list operator come from the literals of the values. -/
theorem forall₂_atomRule_many_iff (htype : type.isSingleValued = false) {values : List Value}
    {atoms : List Atom} :
    List.Forall₂ (AtomRule dates type name op.expansion.2) values atoms ↔
      ∃ literals, List.Forall₂ (LiteralRule type.literalShape) values literals ∧
        atoms = literals.map fun l => op.atom name l := by
  constructor
  · intro h
    induction h with
    | nil => exact ⟨[], .nil, rfl⟩
    | cons ha _ ih =>
      obtain ⟨l, hl, rfl⟩ := (atomRule_many_iff htype).mp ha
      obtain ⟨literals, hliterals, rfl⟩ := ih
      exact ⟨l :: literals, .cons hl hliterals, rfl⟩
  · rintro ⟨literals, hliterals, rfl⟩
    induction hliterals with
    | nil => exact .nil
    | cons hl _ ih => exact .cons ((atomRule_many_iff htype).mpr ⟨_, hl, rfl⟩) ih

end

variable {c : Compiler} {anchor : Date} {conjunction : Conjunction} {id name : String}
  {op : Operator.Many} {d : Descriptor} {v : Value}

/-- The formula of a list operator alone in a group. -/
def listFormula (conjunction : Conjunction) (name : String) (op : Operator.Many)
    (literals : List Literal) : Formula :=
  .group conjunction [.group op.expansion.1 (literals.map fun l => .atom (op.atom name l))]

/-- A criterion with a list operator and some values has the formula of the literals of its values.
There has to be room for its group in the group around it. -/
theorem yields_listTree_iff (hd : Descriptor.IsLast c.available id d)
    (htype : d.type.isSingleValued = false) (hne : v.toList ≠ []) {o : Option Formula} :
    (listTree conjunction id name op v).Yields c anchor o ↔ 2 ≤ c.config.maxDepth ∧
      ∃ literals, List.Forall₂ (LiteralRule d.type.literalShape) v.toList literals ∧
        o = some (listFormula conjunction name op literals) := by
  unfold Group.Yields
  show (Node.group conjunction [.criterion ⟨id, name, .many op, v⟩]).Yields _ _ 0 o ↔ _
  simp only [yields_group_iff, yieldsAll_cons_iff]
  -- There are values, so the inner group is not empty, and neither is the outer one.
  have hformula : ∀ literals, List.Forall₂ (LiteralRule d.type.literalShape) v.toList literals →
      ∃ inner, op.expansion.1.Joins ((literals.map fun l => op.atom name l).map .atom)
          (some inner) ∧
        conjunction.Joins [inner] (some (listFormula conjunction name op literals)) := by
    intro literals hliterals
    cases literals with
    | nil => exact absurd (List.forall₂_nil_right_iff.mp hliterals) hne
    | cons l rest =>
      rw [listFormula, List.map_map]
      exact ⟨_, .group _ _, .group _ []⟩
  constructor
  · rintro ⟨-, parts, ⟨first, others, hfirst, hrest, rfl⟩, ho⟩
    cases hrest
    obtain ⟨-, hdepth, atoms, hatoms, hfirst⟩ := (yields_many_iff rfl hd).mp hfirst
    obtain ⟨literals, hliterals, rfl⟩ := (forall₂_atomRule_many_iff htype).mp hatoms
    obtain ⟨inner, hinner, houter⟩ := hformula literals hliterals
    cases hfirst.unique hinner
    exact ⟨hdepth, literals, hliterals, ho.unique houter⟩
  · rintro ⟨hdepth, literals, hliterals, rfl⟩
    obtain ⟨inner, hinner, houter⟩ := hformula literals hliterals
    exact ⟨Nat.le_of_succ_le hdepth, [inner], ⟨some inner, [], (yields_many_iff rfl hd).mpr ⟨htype,
      hdepth, _, (forall₂_atomRule_many_iff htype).mpr ⟨literals, hliterals, rfl⟩, hinner⟩, .nil,
      rfl⟩, houter⟩

/-- The phrase of such a formula holds when its tests do, as the conjunction of the operator asks
for. -/
theorem holds_listFormula_iff {assigned : Clause → Prop} {literals : List Literal} :
    (listFormula conjunction name op literals).phrase.Holds assigned ↔
      op.expansion.1.Over (fun l => (op.atom name l).clause.Holds assigned) literals := by
  have hphrases : ∀ literals : List Literal,
      Formula.phrases (literals.map fun l => .atom (op.atom name l)) =
        literals.map fun l => .clause (op.atom name l).clause := by
    intro literals
    induction literals with
    | nil => rfl
    | cons l rest ih => rw [List.map_cons, List.map_cons, Formula.phrases, ih]; rfl
  show (Phrase.group conjunction [.group op.expansion.1 (Formula.phrases _)]).Holds _ ↔ _
  rw [Phrase.holds_group_iff, Conjunction.over_singleton, Phrase.holds_group_iff, hphrases,
    Conjunction.over_map]
  rfl

/-! ### Truth -/

/-- All values can be written as literals for the column, and there is room for the group. -/
structure ListCompiles (c : Compiler) (d : Descriptor) (v : Value) : Prop where
  depth : 2 ≤ c.config.maxDepth
  literal : ∀ x ∈ v.toList, ∃ l, x.literal d.type.literalShape = .ok l

/-- The tests of all values deny something when none of them would assert it. -/
theorem ListCompiles.over_not_iff (h : ListCompiles c d v) (asserted : Literal → Prop) :
    Conjunction.all.Over (fun x => ∃ l, x.literal d.type.literalShape = .ok l ∧ ¬ asserted l)
        v.toList ↔
      ¬ Conjunction.any.Over (fun x => ∃ l, x.literal d.type.literalShape = .ok l ∧ asserted l)
        v.toList := by
  rw [Conjunction.not_over_iff]
  refine forall₂_congr fun x hx => ?_
  -- A value has one literal, so it makes no difference where the negation stands.
  obtain ⟨l, hl⟩ := h.literal x hx
  simp [hl]

/-- A list operator compiles exactly if its values can be written as literals, whichever it is. -/
theorem exists_compile_listTree_iff (hd : Descriptor.IsLast c.available id d)
    (htype : d.type.isSingleValued = false) (hne : v.toList ≠ []) :
    (∃ text, c.compile (listTree conjunction id name op v) anchor = .ok text) ↔
      ListCompiles c d v := by
  have hliterals : (∃ literals, List.Forall₂ (LiteralRule d.type.literalShape) v.toList literals) ↔
      ∀ x ∈ v.toList, ∃ l, x.literal d.type.literalShape = .ok l := by
    rw [exists_forall₂_iff]
    simp only [literal_eq_ok_iff]
  constructor
  · rintro ⟨text, hok⟩
    obtain ⟨o, ho, -⟩ := compile_eq_ok_iff.mp hok
    obtain ⟨hdepth, literals, h, -⟩ := (yields_listTree_iff hd htype hne).mp ho
    exact ⟨hdepth, hliterals.mp ⟨literals, h⟩⟩
  · rintro ⟨hdepth, hliteral⟩
    obtain ⟨literals, h⟩ := hliterals.mpr hliteral
    exact ⟨_, compile_eq_ok_iff.mpr
      ⟨_, (yields_listTree_iff hd htype hne).mpr ⟨hdepth, literals, h, rfl⟩, rfl⟩⟩

/-- A list operator that compiles holds when all its tests do, or any, as its conjunction says. -/
theorem holds_listTree_iff (hname : '}' ∉ name.toList) (hd : Descriptor.IsLast c.available id d)
    (htype : d.type.isSingleValued = false) (hne : v.toList ≠ []) (hok : ListCompiles c d v)
    {assigned : Clause → Prop} :
    c.Holds anchor assigned (listTree conjunction id name op v) ↔
      op.expansion.1.Over (fun x => ∃ l, x.literal d.type.literalShape = .ok l ∧
        (op.atom name l).clause.Holds assigned) v.toList := by
  obtain ⟨text, htext⟩ := (exists_compile_listTree_iff hd htype hne).mpr hok
  obtain ⟨o, ho, rfl⟩ := compile_eq_ok_iff.mp htext
  obtain ⟨-, literals, hliterals, rfl⟩ := (yields_listTree_iff hd htype hne).mp ho
  -- The text has one reading, the phrase of the formula.
  have hreads : (listFormula conjunction name op literals).phrase.Derives
      (textOf (some (listFormula conjunction name op literals))).toList := by
    refine Node.Yields.derives ho fun p hp => ?_
    cases List.mem_singleton.mp hp
    exact hname
  have hholds : c.Holds anchor assigned (listTree conjunction id name op v) ↔
      TextHolds assigned (textOf (some (listFormula conjunction name op literals))) := by
    constructor
    · rintro ⟨text, htext', h⟩
      cases htext'.symm.trans htext
      exact h
    · exact fun h => ⟨_, htext, h⟩
  rw [hholds, textHolds_iff_of_derives hreads, holds_listFormula_iff,
    Conjunction.over_of_forall₂ (fun hx hy => ?_) hliterals]
  · simp only [literal_eq_ok_iff]
  · rw [← literal_eq_ok_iff] at hx hy
    exact Except.ok.inj (hx.symm.trans hy)

/-- Of some values on a column with literals, the operators ask what they are called: `isAnyOf` that
the column equals one of them, `|` that one of them is found in it, `&` that all of them are, and
`isNoneOf` and `hasNoneOf` deny `isAnyOf` and `|`. If one of the operators compiles, all of them
do, also for the same values in another order or with repetitions, which changes the truth of none
of them. -/
theorem list_operators_mean (c : Compiler) (anchor : Date) (conjunction : Conjunction)
    (id name : String) (d : Descriptor) (v : Value) (op : Operator.Many) (text : String)
    (hname : '}' ∉ name.toList) (hd : Descriptor.IsLast c.available id d)
    (htype : d.type ≠ .date ∧ d.type ≠ .checkbox) (hne : v.toList ≠ [])
    (hok : c.compile (listTree conjunction id name op v) anchor = .ok text) :
    (∀ w : Value, (∀ x, x ∈ w.toList ↔ x ∈ v.toList) → ∀ op, ∃ text,
      c.compile (listTree conjunction id name op w) anchor = .ok text) ∧
    ∀ assigned : Clause → Prop,
      let holds := fun op w => c.Holds anchor assigned (listTree conjunction id name op w)
      let shape := d.type.literalShape
      (holds .isAnyOf v ↔
        ∃ x ∈ v.toList, ∃ l, x.literal shape = .ok l ∧ assigned (.compare .eq name l)) ∧
      (holds .isNoneOf v ↔ ¬ holds .isAnyOf v) ∧
      (holds .hasAnyOf v ↔
        ∃ x ∈ v.toList, ∃ l, x.literal shape = .ok l ∧ assigned (.found l name)) ∧
      (holds .hasAllOf v ↔
        ∀ x ∈ v.toList, ∃ l, x.literal shape = .ok l ∧ assigned (.found l name)) ∧
      (holds .hasAllOf v → holds .hasAnyOf v) ∧
      (holds .hasNoneOf v ↔ ¬ holds .hasAnyOf v) ∧
      ∀ w : Value, (∀ x, x ∈ w.toList ↔ x ∈ v.toList) → ∀ op, holds op w ↔ holds op v := by
  have hliteral : d.type.isSingleValued = false := by
    rw [← Bool.not_eq_true, ColumnType.isSingleValued_iff, not_or]
    exact htype
  have hv := (exists_compile_listTree_iff hd hliteral hne).mp ⟨text, hok⟩
  -- Only the values themselves are asked about, not their order or number.
  have hother : ∀ w : Value, (∀ x, x ∈ w.toList ↔ x ∈ v.toList) →
      ListCompiles c d w ∧ w.toList ≠ [] := by
    intro w hw
    refine ⟨⟨hv.depth, fun x hx => hv.literal x ((hw x).mp hx)⟩, fun hnil => hne ?_⟩
    exact List.eq_nil_iff_forall_not_mem.mpr fun x hx => by simpa [hnil] using (hw x).mpr hx
  refine ⟨fun w hw op => ?_, fun assigned => ?_⟩
  · obtain ⟨hw, hwne⟩ := hother w hw
    exact (exists_compile_listTree_iff hd hliteral hwne).mpr hw
  intro holds shape
  have hmeans : ∀ op, holds op v ↔ _ := fun op => holds_listTree_iff hname hd hliteral hne hv
  refine ⟨hmeans .isAnyOf, ?_, hmeans .hasAnyOf, hmeans .hasAllOf, ?_, ?_, ?_⟩
  · rw [hmeans .isNoneOf, hmeans .isAnyOf]
    exact hv.over_not_iff fun l => assigned (.compare .eq name l)
  · rw [hmeans .hasAllOf, hmeans .hasAnyOf]
    obtain ⟨x, hx⟩ := List.exists_mem_of_ne_nil _ hne
    exact fun hall => ⟨x, hx, hall x hx⟩
  · rw [hmeans .hasNoneOf, hmeans .hasAnyOf]
    exact hv.over_not_iff fun l => assigned (.found l name)
  · intro w hw op
    obtain ⟨hwok, hwne⟩ := hother w hw
    rw [hmeans op]
    exact (holds_listTree_iff hname hd hliteral hwne hwok).trans (Conjunction.over_congr hw)

/-- The column equals one of two tags and the other one is found in it. So it is any of the tags
and not none of them; of the tags any is found, but not all, and it is not that none is. The tags
may be listed in another order, and one of them twice. -/
theorem one_tag_of_two_found :
    let c : Compiler := ⟨[.plain "t" "Tag" .multiSelect], .standard⟩
    let tags : Value := .list [.text "a", .text "b"]
    let again : Value := .list [.text "b", .text "a", .text "b"]
    let anchor : Date := ⟨738000, by decide, by decide⟩
    let tree := fun op v => listTree .any "t" "Tag" op v
    let assigned : Clause → Prop := fun t =>
      t = .compare .eq "Tag" (.text "b") ∨ t = .found (.text "a") "Tag"
    '}' ∉ "Tag".toList ∧ Descriptor.IsLast c.available "t" (.plain "t" "Tag" .multiSelect) ∧
      tags.toList ≠ [] ∧
      c.compile (tree .hasAllOf tags) anchor
        = .ok "OR(AND(FIND(\"a\",{Tag}), FIND(\"b\",{Tag})))" ∧
      c.compile (tree .isNoneOf again) anchor
        = .ok "OR(AND({Tag}!=\"b\", {Tag}!=\"a\", {Tag}!=\"b\"))" ∧
      c.Holds anchor assigned (tree .isAnyOf again) ∧
      ¬ c.Holds anchor assigned (tree .isNoneOf again) ∧
      c.Holds anchor assigned (tree .hasAnyOf again) ∧
      ¬ c.Holds anchor assigned (tree .hasAllOf again) ∧
      ¬ c.Holds anchor assigned (tree .hasNoneOf again) := by
  intro c tags again anchor tree assigned
  have hlast : Descriptor.IsLast c.available "t" (.plain "t" "Tag" .multiSelect) :=
    ⟨rfl, [], [], rfl, by simp⟩
  have hok : c.compile (tree .hasAllOf tags) anchor
      = .ok "OR(AND(FIND(\"a\",{Tag}), FIND(\"b\",{Tag})))" := by rfl
  have hsame : ∀ x, x ∈ again.toList ↔ x ∈ tags.toList := by
    intro x
    simp only [again, tags, Value.toList, List.mem_cons, List.not_mem_nil, or_false]
    tauto
  obtain ⟨-, hmeans⟩ := list_operators_mean c anchor .any "t" "Tag" _ tags .hasAllOf _ (by decide)
    hlast (by decide) (List.cons_ne_nil _ _) hok
  obtain ⟨hequal, hnotEqual, hany, hall, -, hnone, horder⟩ := hmeans assigned
  have hisAny : c.Holds anchor assigned (tree .isAnyOf tags) :=
    hequal.mpr ⟨_, List.mem_cons_of_mem _ List.mem_cons_self, _, rfl, .inl rfl⟩
  have hfound : c.Holds anchor assigned (tree .hasAnyOf tags) :=
    hany.mpr ⟨_, List.mem_cons_self, _, rfl, .inr rfl⟩
  have hnotAll : ¬ c.Holds anchor assigned (tree .hasAllOf tags) := by
    intro h
    obtain ⟨l, hl, hb⟩ := hall.mp h (.text "b") (List.mem_cons_of_mem _ List.mem_cons_self)
    cases hl
    revert hb
    simp [assigned]
  -- The other list has the same tags, so what holds of the tags as listed first holds of it.
  refine ⟨by decide, hlast, List.cons_ne_nil _ _, hok, by rfl, (horder again hsame _).mpr hisAny,
    fun h => ?_, (horder again hsame _).mpr hfound, fun h => ?_, fun h => ?_⟩
  · exact hnotEqual.mp ((horder again hsame _).mp h) hisAny
  · exact hnotAll ((horder again hsame _).mp h)
  · exact hnone.mp ((horder again hsame _).mp h) hfound

end RecordFilter
