import RecordFilter.Proofs.Compile.Yields
import RecordFilter.Proofs.Formula.Reader
import RecordFilter.Proofs.Formula.Written
import RecordFilter.Proofs.Tree.Places

/-!
# `RecordFilter.Proofs.Compile.Unambiguous`: a compiled text has one reading

A text that comes from a tree can be read back in one way only, and the reading is the formula
that the rules give for the tree. No value can break out of its literal: the formula has one test
for each value, whatever characters the values have. Names of columns are written as they are, so
a name with a closing brace in it is not read back as that name.

* `Node.Yields.derives`: the text of a formula that a node yields is a text of its phrase.
* `compile_reads_back`: the text of a tree is a text of one phrase, that of its formula.
-/

set_option autoImplicit false

namespace RecordFilter

variable {ctx : LoweringContext} {dates : DateContext}

/-- The conjunction of formulas that are in the grammar is in the grammar. -/
theorem Conjunction.Joins.derives {conjunction : Conjunction} {parts : List Formula} {f : Formula}
    (h : conjunction.Joins parts (some f))
    (hparts : ∀ e ∈ parts, e.phrase.Derives e.text.toList) :
    f.phrase.Derives f.text.toList := by
  cases h with
  | group first rest => exact derives_groupText (List.cons_ne_nil first rest) hparts

/-- A test of a column is in the grammar. -/
theorem AtomRule.derives {type : ColumnType} {name : String} {op : Operator.Test} {v : Value}
    {a : Atom} (h : AtomRule dates type name op v a) (hname : IsColumnName name) :
    (Formula.atom a).phrase.Derives (Formula.atom a).text.toList := by
  show Phrase.Derives (.clause a.clause) a.text.toList
  exact .clause (h.clauseText hname)

/-- The tests of one column, one for each value, are in the grammar. -/
theorem derives_of_forall₂ {type : ColumnType} {name : String} {op : Operator.Test}
    {values : List Value} {atoms : List Atom} (hname : IsColumnName name)
    (h : List.Forall₂ (AtomRule dates type name op) values atoms) :
    ∀ e ∈ atoms.map Formula.atom, e.phrase.Derives e.text.toList := by
  induction h with
  | nil => intro e he; cases he
  | cons ha _ ih =>
    intro e he
    cases List.mem_cons.mp he with
    | inl hfirst => rw [hfirst]; exact ha.derives hname
    | inr hrest => exact ih e hrest

mutual

/-- The text of a formula that a node yields is a text of its phrase. -/
theorem Node.Yields.derives : ∀ {node : Node} {depth : Nat} {f : Formula},
    node.Yields ctx dates depth (some f) →
    (∀ p ∈ node.criteria depth, IsColumnName p.2.columnName) →
    f.phrase.Derives f.text.toList
  | .criterion c, depth, f, h, hnames => by
    have hname : IsColumnName c.columnName := hnames (depth, c) List.mem_cons_self
    cases h with
    | test _ _ ha => exact ha.derives hname
    | many _ _ _ _ hatoms hjoins => exact hjoins.derives (derives_of_forall₂ hname hatoms)
  | .group conjunction children, depth, f, h, hnames => by
    cases h with
    | group _ hparts hjoins => exact hjoins.derives (Node.YieldsAll.derives hparts hnames)

/-- So are the texts of the formulas that the children of a group yield. -/
theorem Node.YieldsAll.derives : ∀ {nodes : List Node} {depth : Nat} {parts : List Formula},
    Node.YieldsAll ctx dates depth nodes parts →
    (∀ p ∈ Node.criteriaAll depth nodes, IsColumnName p.2.columnName) →
    ∀ e ∈ parts, e.phrase.Derives e.text.toList
  | [], _, _, h, _, e, he => by cases h; cases he
  | node :: rest, depth, parts, h, hnames, e, he => by
    rw [Node.criteriaAll] at hnames
    cases h with
    | @cons _ _ _ first others hfirst hrest =>
      cases List.mem_append.mp he with
      | inl hmem =>
        rw [Option.mem_toList.mp hmem] at hfirst
        exact Node.Yields.derives hfirst fun p hp => hnames p (List.mem_append_left _ hp)
      | inr hmem =>
        exact Node.YieldsAll.derives hrest
          (fun p hp => hnames p (List.mem_append_right _ hp)) e hmem

end

/-- A tree whose column names have no closing brace compiles to a text with one reading. The
reading is the phrase of the formula that the rules give for the tree, and no other formula has
this phrase. -/
theorem compile_reads_back (c : Compiler) (tree : Group) (anchor : Date) (text : String)
    (hnames : ∀ p ∈ tree.criteria, '}' ∉ p.2.columnName.toList)
    (hok : c.compile tree anchor = .ok text) (hne : text ≠ "") :
    ∃ f : Formula, tree.Yields c anchor (some f) ∧
      (∀ e : Phrase, e.Derives text.toList ↔ e = f.phrase) ∧
      ∀ g : Formula, g.phrase = f.phrase → g = f := by
  obtain ⟨o, ho, htext⟩ := compile_eq_ok_iff.mp hok
  cases o with
  | none => exact absurd htext.symm hne
  | some f =>
    have hderives : f.phrase.Derives text.toList := by
      rw [← htext]
      exact Node.Yields.derives ho hnames
    refine ⟨f, ho, ?_, fun g => Formula.phrase_injective⟩
    intro e
    constructor
    · intro he; exact Phrase.derives_unique he hderives
    · rintro rfl; exact hderives

/-- Each value is read back as one value, also the one that looks like the end of its literal and
another test. The tests are read back in their order, those of a list operator as a group of their
own, and the group without tests is not there. -/
theorem quotes_read_back :
    let c : Compiler := ⟨[.plain "n" "Name" .string, .plain "t" "Tags" .multiSelect], .standard⟩
    let named : Node := .criterion ⟨"n", "Name", .test (.compare .eq), .text "\"),OR(\"\\"⟩
    let other : Node := .criterion ⟨"n", "Name", .test .isNotEmpty, .null⟩
    let tagged : Node := .criterion ⟨"t", "Tags", .many .hasAllOf, .list [.text "b, a", .text "a"]⟩
    let tree : Group := ⟨.all, [named, .group .any [tagged, .group .all [], other]]⟩
    let anchor : Date := ⟨738000, by decide, by decide⟩
    let text := "AND({Name}=\"\\\"),OR(\\\"\\\\\", " ++
      "OR(AND(FIND(\"b, a\",{Tags}), FIND(\"a\",{Tags})), NOT({Name}=BLANK())))"
    let f : Formula := .group .all [.atom (.compare .eq "Name" (.text "\"),OR(\"\\")), .group .any
      [.group .all [.atom (.found (.text "b, a") "Tags"), .atom (.found (.text "a") "Tags")],
        .atom (.notBlank "Name")]]
    (∀ p ∈ tree.criteria, '}' ∉ p.2.columnName.toList) ∧ c.compile tree anchor = .ok text ∧
      text ≠ "" ∧ tree.Yields c anchor (some f) ∧
      (∀ e : Phrase, e.Derives text.toList ↔ e = f.phrase) ∧
      ∀ g : Formula, g.phrase = f.phrase → g = f := by
  intro c named other tagged tree anchor text f
  have hnames : ∀ p ∈ tree.criteria, '}' ∉ p.2.columnName.toList := by decide
  have hok : c.compile tree anchor = .ok text := by rfl
  have hne : text ≠ "" := by decide
  have hformula : c.formula? tree anchor = .ok (some f) := by rfl
  obtain ⟨f', hf', hread⟩ := compile_reads_back c tree anchor text hnames hok hne
  have hsame : f' = f := by
    rw [← formula?_eq_ok_iff, hformula] at hf'
    exact (Option.some.inj (Except.ok.inj hf')).symm
  rw [hsame] at hf' hread
  exact ⟨hnames, hok, hne, hf', hread⟩

end RecordFilter
