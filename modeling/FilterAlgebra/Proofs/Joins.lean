import FilterAlgebra.Build
import FilterAlgebra.Node.Ampersand
import FilterAlgebra.Node.Rendering

/-!
# When checked joins succeed

A checked join succeeds exactly if its operands are expressions of fitting types, and
then it is the plain join of the two. `equate_eq_ok_iff`, `conjoin_eq_ok_iff` and
`buildFilter_eq_ok_iff` say this of the comparison, the conjunction and of what a
builder comes back with; everything about results of joins goes through these three.
The sign is the conjunction wherever it comes to a node (`Node.ampersand_of_reaches`).
-/

set_option autoImplicit false

namespace FilterAlgebra

namespace Node

/-- The comparison of two nodes, unchecked. -/
def comparison (left right : Node) : Node :=
  .binary (.node left) equalitySign (.node right) .bool

/-- The conjunction of two nodes, unchecked. -/
def conjunction (left right : Node) : Node :=
  .binary (.node left) conjunctionSign (.node right) .bool

/-- A comparison is a filter. -/
@[simp] theorem type?_comparison (left right : Node) :
    (comparison left right).type? = some .bool := rfl

/-- A conjunction is a filter. -/
@[simp] theorem type?_conjunction (left right : Node) :
    (conjunction left right).type? = some .bool := rfl

/-- The text of a join of two nodes that have texts. -/
theorem render_binary {left right : Node} {leftText rightText : String} (sign : String)
    (type : SemanticType) (hleft : left.render = .ok leftText) (hright : right.render = .ok rightText) :
    (binary (.node left) sign (.node right) type).render =
      .ok (Rendering.binary leftText sign rightText) := by
  rw [render, Value.render, Value.render, hleft, hright]
  rfl

end Node

namespace Operands

/-- Exactly the nodes pass as operands of a comparison. -/
theorem requireNode_eq_ok_iff {v : Value} :
    (values.requireNode v).result = .ok () ↔ ∃ n, v = .node n := by
  constructor
  · intro h
    cases hv : v.isNode with
    | true => exact Value.eq_node_of_isNode hv
    | false => simp [requireNode, hv] at h
  · rintro ⟨n, rfl⟩
    simp [requireNode]

/-- An operand passes as a filter exactly if it is an expression of the truth type. -/
theorem requireFilter_eq_ok_iff {reason : String → Refusal} {v : Value} :
    (values.requireFilter reason v).result = .ok () ↔ ∃ n, v = .node n ∧ n.type? = some .bool := by
  constructor
  · intro h
    cases hv : v.isNode with
    | false => simp [requireFilter, hv] at h
    | true =>
      obtain ⟨n, rfl⟩ := Value.eq_node_of_isNode hv
      simp only [requireFilter, values_isNode, pure_bind, hv, if_true, values_typeOf] at h
      obtain ⟨type, htype, h⟩ := Traced.result_bind_eq_ok.mp h
      rw [Traced.result_ofFault_eq_ok, Value.semanticType_node_eq_ok] at htype
      refine ⟨n, rfl, ?_⟩
      by_cases hb : type = .bool
      · rw [htype, hb]
      · cases hname : type.name <;> simp [hb, hname] at h
  · rintro ⟨n, rfl, htype⟩
    have hsem := Value.semanticType_node_eq_ok.mpr htype
    simp [requireFilter, hsem]

end Operands

namespace Node

/-- Two nodes of one type are joined, and nothing is recorded. -/
theorem equate_of_type {n m : Node} {type : SemanticType} (hn : n.type? = some type)
    (hm : m.type? = some type) : equate (.node n) (.node m) = pure (.node (comparison n m)) := by
  have leftType := Value.semanticType_node_eq_ok.mpr hn
  have rightType := Value.semanticType_node_eq_ok.mpr hm
  simp [equate, Operands.equate, Operands.requireNode, leftType, rightType, comparison]

/-- A comparison succeeds exactly if both operands are expressions of one type. -/
theorem equate_eq_ok_iff {left right v : Value} :
    (equate left right).result = .ok v ↔
      ∃ l r type, left = .node l ∧ right = .node r ∧ l.type? = some type ∧ r.type? = some type ∧
        v = .node (comparison l r) := by
  constructor
  · intro h
    unfold equate Operands.equate at h
    obtain ⟨hl, h⟩ := Traced.result_check_eq_ok.mp h
    obtain ⟨l, rfl⟩ := Operands.requireNode_eq_ok_iff.mp hl
    obtain ⟨hr, h⟩ := Traced.result_check_eq_ok.mp h
    obtain ⟨r, rfl⟩ := Operands.requireNode_eq_ok_iff.mp hr
    simp only [Operands.values_typeOf, Traced.result_bind_eq_ok, Traced.result_ofFault_eq_ok,
      Value.semanticType_node_eq_ok] at h
    obtain ⟨leftType, hlt, rightType, hrt, h⟩ := h
    by_cases same : leftType = rightType
    · subst same
      simp only [if_true, Operands.values_join, Traced.result_pure, Except.ok.injEq] at h
      exact ⟨l, r, leftType, rfl, rfl, hlt, hrt, h.symm⟩
    · cases hln : leftType.name <;> cases hrn : rightType.name <;> simp [same, hln, hrn] at h
  · rintro ⟨l, r, type, rfl, rfl, hl, hr, rfl⟩
    rw [equate_of_type hl hr]
    rfl

/-- A conjunction succeeds exactly if both operands are filters. -/
theorem conjoin_eq_ok_iff {left right v : Value} :
    (conjoin left right).result = .ok v ↔
      ∃ l r, left = .node l ∧ right = .node r ∧ l.type? = some .bool ∧ r.type? = some .bool ∧
        v = .node (conjunction l r) := by
  unfold conjoin Operands.conjoin
  simp only [Traced.result_check_eq_ok, Operands.requireFilter_eq_ok_iff,
    Operands.values_join, Traced.result_pure, Except.ok.injEq]
  constructor
  · rintro ⟨⟨l, rfl, hl⟩, ⟨r, rfl, hr⟩, h⟩
    exact ⟨l, r, rfl, rfl, hl, hr, h.symm⟩
  · rintro ⟨l, r, rfl, rfl, hl, hr, rfl⟩
    exact ⟨⟨l, rfl, hl⟩, ⟨r, rfl, hr⟩, rfl⟩

end Node

/-! ### The sign -/

/-- The sign comes to a node: one is the left operand, or one is the right operand and users have not
given the class of the left operand an answer to it. -/
def ForeignSigns.ReachNode (foreign : ForeignSigns) (left right : Value) : Prop :=
  left.isNode = true ∨
    right.isNode = true ∧ (left.isForeign = true → foreign.onLeft left right = pure none)

/-- No value has bits in common with a node. -/
theorem Value.common?_node (v : Value) (n : Node) : v.common? (node n) = Option.none := by
  have hindex : (node n).index? = Option.none := rfl
  cases v <;> simp [common?, hindex]

/-- A class that leaves the sign to the node on its right has no answer. -/
theorem Value.ofLeft_eq_none {foreign : ForeignSigns} {left : Value} {n : Node}
    (raw : left.isNode = false)
    (silent : left.isForeign = true → foreign.onLeft left (node n) = pure Option.none) :
    (signAnswers foreign).ofLeft left (node n) = pure Option.none := by
  cases h : left.isForeign with
  | true => simp [signAnswers, raw, h, silent h]
  | false => simp [signAnswers, raw, h, common?_node]

/-- Where the sign comes to a node it is the checked conjunction of its operands. -/
theorem Node.ampersand_of_reaches {foreign : ForeignSigns} {left right : Value}
    (reach : foreign.ReachNode left right) :
    Node.ampersand foreign left right = Node.conjoin left right := by
  cases hleft : left.isNode with
  | true => simp [ampersand, SignAnswers.join, Value.signAnswers, hleft]
  | false =>
    obtain ⟨hright, silent⟩ := reach.resolve_left (by simp [hleft])
    obtain ⟨n, rfl⟩ := Value.eq_node_of_isNode hright
    rw [ampersand, SignAnswers.join, Value.ofLeft_eq_none hleft silent]
    simp [Value.signAnswers]

/-- Building succeeds exactly if the builder comes back with a filter, which is then handed on. -/
theorem Operands.buildFilter_eq_ok_iff {opening : Record} {builder : Traced Value} {v : Value} :
    (values.buildFilter opening builder).result = .ok v ↔
      builder.result = .ok v ∧ ∃ n, v = .node n ∧ n.type? = some .bool := by
  rw [buildFilter, values_run, Traced.result_check_eq_ok, Traced.result_bind_eq_ok]
  simp only [Traced.result_emit, true_and, ensureFilter, Traced.result_check_eq_ok,
    requireFilter_eq_ok_iff, Traced.result_pure, Except.ok.injEq]
  constructor
  · rintro ⟨built, hbuilt, hfilter, rfl⟩
    exact ⟨hbuilt, hfilter⟩
  · rintro ⟨hbuilt, hfilter⟩
    exact ⟨v, hbuilt, hfilter, rfl⟩

end FilterAlgebra
