import RecordFilter.Proofs.Support.Except
import RecordFilter.Proofs.Support.First
import RecordFilter.Proofs.Tree.PayloadShape

/-!
# `RecordFilter.Proofs.Tree.PayloadFaults`: which payloads are filter trees

In a payload a node is a group if it is the root or has a conjunction, and a criterion otherwise.
What has to be said about a node depends on its role, and all that matters are the nodes that are
reached from the root through groups. `Payload.places` has them in the order in which they are
written, a group before its children. Groups without children are passed over.

* `toNode_eq_error_iff`: reading a node reports the first place below it that offends. The proof
  follows the payload.
* `Payload.SameNode.toNode_eq`: the fields that have no role in a node make no difference.
* `ofJson_eq_error_iff`: which JSON values are filter trees, which fault is reported of the others,
  and which fields are not looked at.
-/

set_option autoImplicit false

namespace RecordFilter

open RecordFilter.Proofs.Support

/-! ### Places -/

/-- What matters of a node that is reached: the conjunction of a group with children, and the
column and the operator of a criterion. -/
inductive PayloadPlace where
  | group (conjunction : Option String)
  | criterion (columnId operator : Option String)

namespace Payload

mutual

/-- The places of a node below the root. -/
def nodePlaces : Payload → List PayloadPlace
  | ⟨none, _, columnId, _, operator, _⟩ => [.criterion columnId operator]
  | ⟨some conjunction, filters, _, _, _, _⟩ =>
    if filters.isEmpty then [] else .group (some conjunction) :: nodePlacesAll filters

/-- The places of nodes, in order. -/
def nodePlacesAll : List Payload → List PayloadPlace
  | [] => []
  | p :: rest => nodePlaces p ++ nodePlacesAll rest

end

/-- The places of a payload, whose root is a group. -/
def places (p : Payload) : List PayloadPlace :=
  if p.filters.isEmpty then [] else .group p.conjunction :: nodePlacesAll p.filters

end Payload

/-- The tokens of the operators. -/
def operatorTokens : List String :=
  ["=", "!=", ">", ">=", "<", "<=", "contains", "doesNotContain", "filename", "isEmpty",
    "isNotEmpty", "isWithin", "isAnyOf", "isNoneOf", "|", "&", "hasNoneOf"]

/-- The place offends for this reason. A conjunction that is missing counts as the empty text. -/
inductive PayloadPlace.Offends : PayloadPlace → FilterFault → Prop
  | unknownConjunction {conjunction : Option String} (hand : conjunction.getD "" ≠ "and")
    (hor : conjunction.getD "" ≠ "or") :
    Offends (.group conjunction) (.unknownConjunction (conjunction.getD ""))
  | missingColumnId {operator : Option String} :
    Offends (.criterion none operator) (.malformedTree .missingColumnId)
  | missingOperator {columnId : String} :
    Offends (.criterion (some columnId) none) (.malformedTree .missingOperator)
  | unknownOperator {columnId token : String} (h : token ∉ operatorTokens) :
    Offends (.criterion (some columnId) (some token)) (.unsupportedOperator token none)

/-- The place is in order. -/
def PayloadPlace.InOrder : PayloadPlace → Prop
  | .group conjunction => conjunction.getD "" = "and" ∨ conjunction.getD "" = "or"
  | .criterion columnId operator =>
    (∃ s, columnId = some s) ∧ ∃ token ∈ operatorTokens, operator = some token

/-- A place is in order exactly when it does not offend. -/
theorem PayloadPlace.inOrder_iff {place : PayloadPlace} :
    place.InOrder ↔ ∀ fault, ¬ place.Offends fault := by
  cases place with
  | group conjunction =>
    constructor
    · intro h fault hfault
      cases hfault with
      | unknownConjunction hand hor => exact h.elim hand hor
    · intro h
      by_contra hnot
      obtain ⟨hand, hor⟩ := not_or.mp hnot
      exact h _ (.unknownConjunction hand hor)
  | criterion columnId operator =>
    constructor
    · intro ⟨⟨s, hs⟩, token, htoken, hoperator⟩ fault hfault
      subst hs hoperator
      cases hfault with
      | unknownOperator hnot => exact hnot htoken
    · intro h
      cases columnId with
      | none => exact absurd .missingColumnId (h _)
      | some s =>
        cases operator with
        | none => exact absurd .missingOperator (h _)
        | some token =>
          refine ⟨⟨s, rfl⟩, token, ?_, rfl⟩
          by_contra hnot
          exact h _ (.unknownOperator hnot)

/-! ### Conjunctions and operators -/

/-- A text names no conjunction exactly when it is neither of the two texts. -/
theorem Conjunction.ofName?_eq_none_iff {s : String} :
    ofName? s = none ↔ s ≠ "and" ∧ s ≠ "or" := by
  unfold ofName?
  split <;> simp_all

/-- A text names no operator exactly when it is none of the tokens. -/
theorem Operator.ofToken?_eq_none_iff {token : String} :
    ofToken? token = none ↔ token ∉ operatorTokens := by
  have hread : ∀ t ∈ operatorTokens, ofToken? t ≠ none := by
    decide
  constructor
  · intro hnone htoken
    exact hread token htoken hnone
  · intro htoken
    cases ho : ofToken? token with
    | none => rfl
    | some o =>
      refine absurd ?_ htoken
      rw [← ofToken?_eq_some_iff.mp ho]
      cases o with
      | test t =>
        cases t with
        | compare c => cases c <;> decide
        | _ => decide
      | many m => cases m <;> decide

/-- A conjunction that is missing or has no known name is reported. -/
theorem conjunction_parse_eq_error_iff {conjunction : Option String} {fault : FilterFault} :
    Conjunction.parse (conjunction.getD "") = .error fault ↔
      (PayloadPlace.group conjunction).Offends fault := by
  unfold Conjunction.parse
  cases hname : Conjunction.ofName? (conjunction.getD "") with
  | none =>
    obtain ⟨hand, hor⟩ := Conjunction.ofName?_eq_none_iff.mp hname
    constructor
    · intro h
      cases h
      exact .unknownConjunction hand hor
    · intro h
      cases h
      rfl
  | some c =>
    refine iff_of_false (by simp) ?_
    intro h
    cases h with
    | unknownConjunction hand hor =>
      rw [Conjunction.ofName?_eq_none_iff.mpr ⟨hand, hor⟩] at hname
      cases hname

/-- A token that no operator has is reported. -/
theorem operator_parse_eq_error_iff {columnId token : String} {fault : FilterFault} :
    Operator.parse token = .error fault ↔
      (PayloadPlace.criterion (some columnId) (some token)).Offends fault := by
  unfold Operator.parse
  cases htoken : Operator.ofToken? token with
  | none =>
    constructor
    · intro h
      cases h
      exact .unknownOperator (Operator.ofToken?_eq_none_iff.mp htoken)
    · intro h
      cases h
      rfl
  | some operator =>
    refine iff_of_false (by simp) ?_
    intro h
    cases h with
    | unknownOperator hnot =>
      rw [Operator.ofToken?_eq_none_iff.mpr hnot] at htoken
      cases htoken

/-! ### Nodes -/

/-- The fields of a criterion offend exactly as its place does. -/
theorem criterion_eq_error_iff {columnId columnName operator : Option String} {value : Value}
    {fault : FilterFault} :
    Payload.criterion columnId columnName operator value = .error fault ↔
      (PayloadPlace.criterion columnId operator).Offends fault := by
  cases columnId with
  | none =>
    constructor
    · intro h
      cases h
      exact .missingColumnId
    · intro h
      cases h
      rfl
  | some columnId =>
    cases operator with
    | none =>
      constructor
      · intro h
        cases h
        exact .missingOperator
      · intro h
        cases h
        rfl
    | some token =>
      rw [Payload.criterion, bind_pure_eq_error_iff]
      exact operator_parse_eq_error_iff

/-- A group offends with its conjunction, or as its children do; a group without children does
not. -/
theorem group_eq_error_iff {conjunction : Option String} {isEmpty : Bool}
    {children : Except FilterFault (List Node)} {places : List PayloadPlace} {fault : FilterFault}
    (h : ∀ fault, children = .error fault ↔ FirstOf PayloadPlace.Offends places fault) :
    Payload.group conjunction isEmpty children = .error fault ↔
      FirstOf PayloadPlace.Offends (if isEmpty then [] else .group conjunction :: places)
        fault := by
  cases isEmpty with
  | true => simp [Payload.group]
  | false =>
    -- The children are looked at when the conjunction is one of the two.
    have hplace : ∀ fault, Conjunction.parse (conjunction.getD "") = .error fault ↔
        FirstOf PayloadPlace.Offends [.group conjunction] fault := fun fault =>
      conjunction_parse_eq_error_iff.trans firstOf_singleton.symm
    have hconjunction := exists_ok_iff_of_firstOf hplace
    rw [List.forall_mem_singleton] at hconjunction
    show (Conjunction.parse (conjunction.getD "") >>= fun c => children >>= fun nodes =>
        pure (Group.mk c nodes)) = .error fault ↔
      FirstOf PayloadPlace.Offends (.group conjunction :: places) fault
    rw [firstOf_cons, ← hconjunction, ← conjunction_parse_eq_error_iff, ← h, bind_eq_error_iff]
    simp only [bind_pure_eq_error_iff, exists_and_right]

namespace Payload

mutual

/-- Reading a node reports the first place below it that offends. -/
theorem toNode_eq_error_iff : ∀ (p : Payload) {fault : FilterFault},
    p.toNode = .error fault ↔ FirstOf PayloadPlace.Offends p.nodePlaces fault
  | ⟨none, filters, columnId, columnName, operator, value⟩, fault => by
    rw [toNode, nodePlaces, firstOf_singleton, map_eq_error_iff, criterion_eq_error_iff]
  | ⟨some conjunction, filters, columnId, columnName, operator, value⟩, fault => by
    rw [toNode, nodePlaces, map_eq_error_iff]
    exact group_eq_error_iff fun _ => toNodes_eq_error_iff filters

/-- Reading nodes reports the first place that offends. -/
theorem toNodes_eq_error_iff : ∀ (ps : List Payload) {fault : FilterFault},
    toNodes ps = .error fault ↔ FirstOf PayloadPlace.Offends (nodePlacesAll ps) fault
  | [], fault => by
    rw [toNodes, nodePlacesAll]
    simp
  | p :: rest, fault => by
    -- The rest is looked at when no place of the first node offends.
    have hnode := exists_ok_iff_of_firstOf fun fault => @toNode_eq_error_iff p fault
    rw [toNodes, nodePlacesAll, firstOf_append, ← toNode_eq_error_iff p, ← hnode,
      ← toNodes_eq_error_iff rest, bind_eq_error_iff]
    simp only [bind_pure_eq_error_iff, exists_and_right]

end

/-- Reading a payload reports the first place that offends. -/
theorem toGroup_eq_error_iff {p : Payload} {fault : FilterFault} :
    p.toGroup = .error fault ↔ FirstOf PayloadPlace.Offends p.places fault :=
  group_eq_error_iff fun _ => toNodes_eq_error_iff p.filters

/-! ### Fields without a role -/

mutual

/-- Two nodes below the root have the same role, and agree on the fields of this role. The others
may differ. -/
inductive SameNode : Payload → Payload → Prop
  | criterion {p q : Payload} (hp : p.conjunction = none) (hq : q.conjunction = none)
    (hcolumnId : p.columnId = q.columnId)
    (hcolumnName : p.columnName.getD "" = q.columnName.getD "")
    (hoperator : p.operator = q.operator) (hvalue : p.value = q.value) : SameNode p q
  | group {p q : Payload} {c d : String} (hp : p.conjunction = some c) (hq : q.conjunction = some d)
    (h : SameGroup p q) : SameNode p q

/-- Two groups have no children, or agree on the conjunction and on the children. -/
inductive SameGroup : Payload → Payload → Prop
  | empty {p q : Payload} (hp : p.filters = []) (hq : q.filters = []) : SameGroup p q
  | children {p q : Payload} (hconjunction : p.conjunction.getD "" = q.conjunction.getD "")
    (h : SameNodes p.filters q.filters) : SameGroup p q

/-- The nodes agree one by one. -/
inductive SameNodes : List Payload → List Payload → Prop
  | nil : SameNodes [] []
  | cons {p q : Payload} {ps qs : List Payload} (hfirst : SameNode p q) (hrest : SameNodes ps qs) :
    SameNodes (p :: ps) (q :: qs)

end

/-- A node without a conjunction is read as a criterion. -/
theorem toNode_of_none {p : Payload} (h : p.conjunction = none) : p.toNode =
    (criterion p.columnId p.columnName p.operator p.value).map Node.criterion := by
  obtain ⟨conjunction, filters, columnId, columnName, operator, value⟩ := p
  cases h
  rw [toNode]

/-- A node with a conjunction is read as a group. -/
theorem toNode_of_some {p : Payload} {c : String} (h : p.conjunction = some c) :
    p.toNode = p.toGroup.map Group.toNode := by
  obtain ⟨conjunction, filters, columnId, columnName, operator, value⟩ := p
  cases h
  rw [toNode, toGroup]

/-- A name that is missing counts as the empty name. -/
theorem criterion_eq_of_getD {columnId name name' operator : Option String} {value : Value}
    (h : name.getD "" = name'.getD "") :
    criterion columnId name operator value = criterion columnId name' operator value := by
  cases columnId with
  | none => rfl
  | some s =>
    cases operator with
    | none => rfl
    | some token => rw [criterion, criterion, h]

/-- Nodes that agree one by one are as many. -/
theorem SameNodes.isEmpty_eq {ps qs : List Payload} (h : SameNodes ps qs) :
    ps.isEmpty = qs.isEmpty := by
  cases h with
  | nil => rfl
  | cons => rfl

mutual

/-- Nodes that agree on the fields of their role are read alike. -/
theorem SameNode.toNode_eq : ∀ {p q : Payload}, p.SameNode q → p.toNode = q.toNode
  | _, _, .criterion hp hq hcolumnId hcolumnName hoperator hvalue => by
    rw [toNode_of_none hp, toNode_of_none hq, hcolumnId, hoperator, hvalue,
      criterion_eq_of_getD hcolumnName]
  | _, _, .group hp hq h => by
    rw [toNode_of_some hp, toNode_of_some hq, h.toGroup_eq]

/-- Groups that agree are read alike. -/
theorem SameGroup.toGroup_eq : ∀ {p q : Payload}, p.SameGroup q → p.toGroup = q.toGroup
  | p, q, .empty hp hq => by
    rw [toGroup, toGroup, hp, hq]
    rfl
  | p, q, .children hconjunction h => by
    rw [toGroup, toGroup, group, group, hconjunction, h.isEmpty_eq, h.toNodes_eq]

/-- Nodes that agree one by one are read alike. -/
theorem SameNodes.toNodes_eq : ∀ {ps qs : List Payload}, SameNodes ps qs → toNodes ps = toNodes qs
  | _, _, .nil => rfl
  | _, _, .cons hfirst hrest => by
    rw [toNodes, toNodes, hfirst.toNode_eq, hrest.toNodes_eq]

end

end Payload

/-! ### JSON values -/

/-- A settled JSON value that spells a payload is read as this payload. -/
theorem ofJson_eq_toGroup {j : Json} {p : Payload} (hj : j.IsSettled) (hp : j.Spells p) :
    Group.ofJson j = p.toGroup := by
  rw [Group.ofJson, (spells_iff hj).mp hp]

/-- A JSON value that was decoded is settled. It spells a payload exactly when it has the shape of
one, and otherwise it is refused as a whole, whatever else is wrong with it. A value that spells a
payload is a filter tree exactly when every place of the payload is in order, and if not, the first
place that offends is reported. Another value whose payload agrees on the fields that have a role
has the same outcome. -/
theorem ofJson_eq_error_iff (j : Json) (hj : j.IsSettled) :
    (j.IsNode ↔ ∃ p, j.Spells p) ∧
      (¬ j.IsNode → Group.ofJson j = .error (.malformedTree .notATree)) ∧
      ∀ p : Payload, j.Spells p →
        ((∃ g, Group.ofJson j = .ok g) ↔ ∀ place ∈ p.places, place.InOrder) ∧
        (∀ fault, Group.ofJson j = .error fault ↔
          FirstOf PayloadPlace.Offends p.places fault) ∧
        ∀ (other : Json) (q : Payload), other.IsSettled → other.Spells q → p.SameGroup q →
          Group.ofJson other = Group.ofJson j := by
  refine ⟨Json.isNode_iff hj, ?_, ?_⟩
  · intro hshape
    cases hpayload : Payload.ofJson? j with
    | none => rw [Group.ofJson, hpayload]
    | some p => exact absurd ((spells_iff hj).mpr hpayload).isNode hshape
  · intro p hp
    have hfirst : ∀ fault, Group.ofJson j = .error fault ↔
        FirstOf PayloadPlace.Offends p.places fault := by
      intro fault
      rw [ofJson_eq_toGroup hj hp]
      exact Payload.toGroup_eq_error_iff
    refine ⟨?_, hfirst, ?_⟩
    · rw [exists_ok_iff_of_firstOf hfirst]
      simp only [PayloadPlace.inOrder_iff]
    · intro other q hother hq hsame
      rw [ofJson_eq_toGroup hother hq, ofJson_eq_toGroup hj hp, hsame.toGroup_eq]

/-- The unknown operator is reported: the empty group before it may have any conjunction, and the
node after it, which says nothing, comes too late. The outcome is the same with the root in its
other form and with other fields that have no role. A child of the wrong kind below a criterion is
reported before the conjunction of the root. -/
theorem first_offence_reported :
    let empty : Json := .object [("conjunction", .str "xor"), ("filters", .array [])]
    let like : Json := .object [("columnId", .str "n"), ("operator", .str "like")]
    let tree : Json := .object
      [("conjunction", .str "and"), ("children", .array [empty, like, .object []])]
    let group : Json := .object [("conjunction", .str "nor"), ("value", .bool true)]
    let other : Json := .array [.str "and", .array [group, like, .object []], .str "n"]
    let ignored : Json := .object [("filters", .array [.bool true])]
    let wrong : Json := .object [("conjunction", .str "xor"), ("filters", .array [ignored])]
    let fault : FilterFault := .unsupportedOperator "like" none
    tree.IsSettled ∧ Group.ofJson tree = .error fault ∧ Group.ofJson other = .error fault ∧
      wrong.IsSettled ∧ ¬ wrong.IsNode ∧
      Group.ofJson wrong = .error (.malformedTree .notATree) := by
  intro empty like tree group other ignored wrong fault
  have htree : tree.IsSettled := rfl
  have hsettled : other.IsSettled := rfl
  have hwrong : wrong.IsSettled := rfl
  have hp : tree.Spells ⟨some "and", [⟨some "xor", [], none, none, none, .null⟩,
      ⟨none, [], some "n", none, some "like", .null⟩, .blank], none, none, none, .null⟩ :=
    (spells_iff htree).mpr rfl
  have hq : other.Spells ⟨some "and", [⟨some "nor", [], none, none, none, .bool true⟩,
      ⟨none, [], some "n", none, some "like", .null⟩, .blank], some "n", none, none, .null⟩ :=
    (spells_iff hsettled).mpr rfl
  obtain ⟨-, hfirst, hsame⟩ := (ofJson_eq_error_iff tree htree).2.2 _ hp
  have hfault : Group.ofJson tree = .error fault := by
    rw [hfirst]
    refine ⟨[.group (some "and")], .criterion (some "n") (some "like"), [.criterion none none],
      rfl, ?_, .unknownOperator (by decide)⟩
    -- The root is the only place before: a group without children is none.
    rw [List.forall_mem_singleton, ← PayloadPlace.inOrder_iff]
    exact .inl rfl
  have hother : Group.ofJson other = Group.ofJson tree := by
    refine hsame other _ hsettled hq (.children rfl (.cons ?_ (.cons ?_ (.cons ?_ .nil))))
    · exact .group rfl rfl (.empty rfl rfl)
    · exact .criterion rfl rfl rfl rfl rfl rfl
    · exact .criterion rfl rfl rfl rfl rfl rfl
  have hshape : ¬ wrong.IsNode := by
    intro h
    obtain ⟨p, hp⟩ := h.exists_spells hwrong
    have hnone : Payload.ofJson? wrong = none := rfl
    rw [spells_iff hwrong, hnone] at hp
    cases hp
  exact ⟨htree, hfault, hother.trans hfault, hwrong, hshape,
    (ofJson_eq_error_iff wrong hwrong).2.1 hshape⟩

end RecordFilter
