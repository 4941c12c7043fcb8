import FilterAlgebra.Proofs.Dispatch

/-!
# Lifting operands

What an operand is lifted to has the type that was asked for, and lifting it again changes nothing.
Where no type is asked for, a raw operand goes to the first capability that accepts it; asked for at
the type of its literal it goes to the first capability of that type, which is the same one where
types are distinct.

A comparison with a raw operand first lifts and then joins (`Bundle.equate_eq_prepare`). As the raw
operand is lifted to the type of the node it faces, the join has nothing left to refuse, so what a
comparison fails for is a lift or a node without a type. `Bundle.lifted_operands_compare` is the main
result.
-/

set_option autoImplicit false

namespace FilterAlgebra

/-- A node that has no semantic type, or the absent value in the place of one. -/
def Value.LacksType (v : Value) : Prop :=
  ∃ n, v = .node n ∧ (n.type? = Option.none ∨ n.type? = some .absent)

namespace Bundle

variable {bundle : Bundle} {v w node raw left right : Value} {type : SemanticType}
  {failure : Failure}

/-! ### What operands are lifted to -/

/-- What an operand is lifted to is a node, of the type that was asked for. -/
theorem node_of_lift (lifted : (bundle.lift v type).result = .ok w) :
    ∃ n, w = .node n ∧ (type ≠ .absent → n.type? = some type) := by
  cases isNode : v.isNode with
  | true =>
    obtain ⟨n, rfl⟩ := Value.eq_node_of_isNode isNode
    obtain ⟨fits, rfl⟩ := lift_node_eq_ok_iff.mp lifted
    exact ⟨n, rfl, fits.resolve_left⟩
  | false =>
    obtain ⟨c, text, picked, -, rfl⟩ := (lift_raw_eq_ok_iff isNode).mp lifted
    refine ⟨.literal c.type text, rfl, fun required => ?_⟩
    rw [pick?, if_neg required] at picked
    have serves : c.type = type := by simpa using List.find?_some picked
    exact congrArg some serves

/-- A node that will do is lifted to itself. -/
theorem lift_of_fits {n : Node} (fits : type = .absent ∨ n.type? = some type) :
    bundle.lift (.node n) type = pure (.node n) := by
  rw [lift_node]
  split
  · rfl
  · rename_i required
    have actual := Value.semanticType_node_eq_ok.mpr (fits.resolve_left required)
    simp [Lifting.requireType, actual]

/-- What was lifted is lifted to itself, at the type it was lifted to and at any. -/
theorem lift_lifted (lifted : (bundle.lift v type).result = .ok w) :
    bundle.lift w type = pure w ∧ bundle.lift w .absent = pure w := by
  obtain ⟨n, rfl, typed⟩ := node_of_lift lifted
  have fits : type = .absent ∨ n.type? = some type := by
    by_cases required : type = .absent
    · exact .inl required
    · exact .inr (typed required)
  exact ⟨lift_of_fits fits, lift_of_fits (.inl rfl)⟩

/-- Where no type is asked for, the first capability that accepts a raw operand converts it. -/
theorem converted_by_first (isRaw : v.isNode = false)
    (lifted : (bundle.lift v .absent).result = .ok w) :
    ∃ c n, bundle.capabilities.find? (·.accepts v) = some c ∧ (c.asExpression v).result = .ok n ∧
      (∃ text, n = .literal c.type text) ∧ w = .node n := by
  obtain ⟨c, text, picked, writes, rfl⟩ := (lift_raw_eq_ok_iff isRaw).mp lifted
  rw [pick?, if_pos rfl] at picked
  have converted := Capability.asExpression_eq_ok_iff.mpr ⟨text, writes, rfl⟩
  exact ⟨c, _, picked, converted, ⟨text, rfl⟩, rfl⟩

/-- Where types are distinct, every capability is the one of its type. -/
theorem capability?_of_distinct (distinct : bundle.types.Nodup) {c : Capability}
    (active : c ∈ bundle.capabilities) : bundle.capability? c.type = some c := by
  refine (find?_eq_some_iff_of_unique ?_).mpr ⟨active, decide_eq_true rfl⟩
  intro d hd e he hdt het
  exact eq_of_type_eq distinct hd he ((of_decide_eq_true hdt).trans (of_decide_eq_true het).symm)

/-- Where types are distinct, a raw operand is converted at the type of the first capability that
accepts it by that capability too. -/
theorem lift_at_first_type (distinct : bundle.types.Nodup) (isRaw : v.isNode = false)
    {c : Capability} {n : Node} (first : bundle.capabilities.find? (·.accepts v) = some c)
    (converted : (c.asExpression v).result = .ok n) :
    (bundle.lift v c.type).result = .ok (.node n) := by
  have picked : bundle.pick? v c.type = some c := by
    unfold pick?
    split
    · exact first
    · exact capability?_of_distinct distinct (List.mem_of_find?_eq_some first)
  rw [lift_raw bundle isRaw, picked]
  exact Traced.result_map_eq_ok.mpr ⟨n, converted, rfl⟩

/-! ### What a comparison joins -/

/-- The operands that are joined where a raw operand faces a node: it is lifted to the type of the
node. -/
def face (bundle : Bundle) (node raw : Value) : Traced (Value × Value) := do
  let type ← Operands.values.typeOf node
  let lifted ← bundle.lift raw type
  return (node, lifted)

/-- The operands that a comparison joins. -/
def prepare (bundle : Bundle) (left right : Value) : Traced (Value × Value) :=
  if left.isNode then
    if right.isNode then pure (left, right) else bundle.face left right
  else if right.isNode then bundle.face right left
  else bundle.lift left .absent >>= fun lifted => bundle.face lifted right

/-- A comparison prepares its operands and joins them. -/
theorem equate_eq_prepare (bundle : Bundle) (left right : Value) :
    bundle.equate left right =
      bundle.prepare left right >>= fun operands => Node.equate operands.1 operands.2 := by
  unfold equate prepare face Node.equate Operands.equateLifting Operands.equateWith
  cases hl : left.isNode <;> cases hr : right.isNode <;> simp [hl, hr]

/-- In the comparison of two operands, a node and the raw operand that is lifted to its type. Of two
raw operands the left one is lifted first, to any type. -/
inductive Faces (bundle : Bundle) (left right : Value) : Value → Value → Prop
  | left (isNode : left.isNode = true) (isRaw : right.isNode = false) : Faces bundle left right left right
  | right (isRaw : left.isNode = false) (isNode : right.isNode = true) :
    Faces bundle left right right left
  | lifted {w : Value} (leftRaw : left.isNode = false) (rightRaw : right.isNode = false)
    (lifted : (bundle.lift left .absent).result = .ok w) : Faces bundle left right w right

/-- A failure of one of the lifts that a comparison makes. -/
def FailsToLift (bundle : Bundle) (left right : Value) (failure : Failure) : Prop :=
  (left.isNode = false ∧ right.isNode = false ∧
    (bundle.lift left .absent).result = .error failure) ∨
  ∃ node raw type, bundle.Faces left right node raw ∧ node.semanticType = .ok type ∧
    (bundle.lift raw type).result = .error failure

/-- The operand that faces another is a node. -/
theorem Faces.eq_node (faces : bundle.Faces left right node raw) : ∃ n, node = .node n := by
  cases faces with
  | left isNode _ => exact Value.eq_node_of_isNode isNode
  | right _ isNode => exact Value.eq_node_of_isNode isNode
  | lifted _ _ lifted =>
    obtain ⟨n, rfl, -⟩ := node_of_lift lifted
    exact ⟨n, rfl⟩

/-- With a raw operand, a comparison prepares a node and what faces it, unless the left one of two raw
operands cannot be lifted. -/
theorem prepare_cases (oneRaw : left.isNode = false ∨ right.isNode = false) :
    (∃ failure, bundle.FailsToLift left right failure ∧
      (bundle.prepare left right).result = .error failure) ∨
    ∃ node raw, bundle.Faces left right node raw ∧
      (bundle.prepare left right).result = (bundle.face node raw).result := by
  cases hl : left.isNode <;> cases hr : right.isNode
  · cases lifted : (bundle.lift left .absent).result with
    | error failure =>
      refine .inl ⟨failure, .inl ⟨hl, hr, lifted⟩, ?_⟩
      simp [prepare, hl, hr, Traced.result_bind, lifted]
    | ok w =>
      refine .inr ⟨w, right, .lifted hl hr lifted, ?_⟩
      simp [prepare, hl, hr, Traced.result_bind, lifted]
  · exact .inr ⟨right, left, .right hl hr, by simp [prepare, hl, hr]⟩
  · exact .inr ⟨left, right, .left hl hr, by simp [prepare, hl, hr]⟩
  · simp [hl, hr] at oneRaw

/-- An operand is faced exactly if the node has a type and the raw operand is lifted to it. -/
theorem face_eq_ok_iff {operands : Value × Value} :
    (bundle.face node raw).result = .ok operands ↔
      ∃ type, node.semanticType = .ok type ∧ (bundle.lift raw type).result = .ok operands.2 ∧
        operands.1 = node := by
  unfold face
  simp only [Operands.values_typeOf, Traced.result_bind_eq_ok, Traced.result_ofFault_eq_ok,
    Traced.result_pure, Except.ok.injEq]
  constructor
  · rintro ⟨type, htype, w, lifted, rfl⟩
    exact ⟨type, htype, lifted, rfl⟩
  · rintro ⟨type, htype, lifted, same⟩
    exact ⟨type, htype, operands.2, lifted, by rw [← same]⟩

/-- A raw operand fails to face a node only by a lift, if the node has a type. -/
theorem lift_fails_of_face {n : Node} (failed : (bundle.face (.node n) raw).result = .error failure) :
    (Value.node n).LacksType ∨ ∃ type, (Value.node n).semanticType = .ok type ∧
      (bundle.lift raw type).result = .error failure := by
  cases htype : n.type? with
  | none => exact .inl ⟨n, rfl, .inl htype⟩
  | some type =>
    have actual := Value.semanticType_node_eq_ok.mpr htype
    refine .inr ⟨type, actual, ?_⟩
    simp only [face, Operands.values_typeOf, actual, Traced.ofFault_ok, pure_bind,
      Traced.result_bind] at failed
    cases lifted : (bundle.lift raw type).result with
    | error other =>
      rw [lifted] at failed
      cases failed
      rfl
    | ok w =>
      rw [lifted] at failed
      cases failed

/-- What faces a node is a node, and the two are joined if the first has a type. -/
theorem join_of_face {operands : Value × Value} {n : Node}
    (faced : (bundle.face (.node n) raw).result = .ok operands) :
    ∃ m, operands = (.node n, .node m) ∧ (¬(Value.node n).LacksType →
      Node.equate (.node n) (.node m) = pure (.node (Node.comparison n m))) := by
  obtain ⟨type, htype, lifted, same⟩ := face_eq_ok_iff.mp faced
  rw [Value.semanticType_node_eq_ok] at htype
  obtain ⟨m, hm, fits⟩ := node_of_lift lifted
  refine ⟨m, Prod.ext same hm, fun typed => ?_⟩
  have required : type ≠ .absent := by
    rintro rfl
    exact typed ⟨n, rfl, .inr htype⟩
  exact Node.equate_of_type htype (fits required)

/-- With a raw operand, what a comparison prepares are two nodes, which are joined if the first has a
type. -/
theorem join_of_prepare (oneRaw : left.isNode = false ∨ right.isNode = false)
    {operands : Value × Value} (prepared : (bundle.prepare left right).result = .ok operands) :
    ∃ n m, operands = (.node n, .node m) ∧ (∃ raw, bundle.Faces left right (.node n) raw) ∧
      (¬(Value.node n).LacksType →
        Node.equate (.node n) (.node m) = pure (.node (Node.comparison n m))) := by
  rcases prepare_cases oneRaw with ⟨failure, -, failed⟩ | ⟨node, raw, faces, same⟩
  · rw [failed] at prepared
    cases prepared
  · obtain ⟨n, rfl⟩ := faces.eq_node
    rw [same] at prepared
    obtain ⟨m, shape, joins⟩ := join_of_face prepared
    exact ⟨n, m, shape, ⟨raw, faces⟩, joins⟩

/-- Where operands cannot be prepared, one of them cannot be lifted, or the node that faces the other
lacks a type. -/
theorem lift_fails_of_prepare (oneRaw : left.isNode = false ∨ right.isNode = false)
    (failed : (bundle.prepare left right).result = .error failure) :
    bundle.FailsToLift left right failure ∨
      ∃ node raw, bundle.Faces left right node raw ∧ node.LacksType := by
  rcases prepare_cases oneRaw with ⟨other, fails, failedFirst⟩ | ⟨node, raw, faces, same⟩
  · rw [failedFirst] at failed
    cases failed
    exact .inl fails
  · obtain ⟨n, rfl⟩ := faces.eq_node
    rw [same] at failed
    rcases lift_fails_of_face failed with lacking | ⟨type, htype, fails⟩
    · exact .inr ⟨_, raw, faces, lacking⟩
    · exact .inl (.inr ⟨_, raw, type, faces, htype, fails⟩)

/-- With a raw operand, a comparison fails only where a lift does, or over a node without a type. -/
theorem lift_fails_of_equate (oneRaw : left.isNode = false ∨ right.isNode = false)
    (failed : (bundle.equate left right).result = .error failure) :
    bundle.FailsToLift left right failure ∨
      ∃ node raw, bundle.Faces left right node raw ∧ node.LacksType := by
  rw [equate_eq_prepare, Traced.result_bind] at failed
  cases prepared : (bundle.prepare left right).result with
  | error other =>
    rw [prepared] at failed
    cases failed
    exact lift_fails_of_prepare oneRaw prepared
  | ok operands =>
    obtain ⟨n, m, rfl, ⟨raw, faces⟩, joins⟩ := join_of_prepare oneRaw prepared
    by_cases lacking : (Value.node n).LacksType
    · exact .inr ⟨.node n, raw, faces, lacking⟩
    · rw [prepared] at failed
      simp only [joins lacking] at failed
      cases failed

/-- **What lifting gives is right, stays as it is and agrees with itself, so that comparisons with a raw
operand fail only by lifting.**

What an operand is lifted to is a node, of the type asked for if one is, and is lifted to itself at
that type and where no type is asked for. A raw operand for which no type is asked is converted by the
first capability that accepts it; if the types of the bundle are distinct, it is lifted to the same
literal at the type of that literal.

A comparison prepares two operands and joins them. If one of those it is given is raw, the two are
nodes, and joining them never fails, unless the first has no type; so if a comparison fails, a lift that
it makes does or the node whose type it asks for has none. -/
theorem lifted_operands_compare (bundle : Bundle) :
    (∀ v type w, (bundle.lift v type).result = .ok w →
      (∃ n, w = .node n ∧ (type ≠ .absent → n.type? = some type)) ∧
      bundle.lift w type = pure w ∧ bundle.lift w .absent = pure w) ∧
    (∀ v w, v.isNode = false → (bundle.lift v .absent).result = .ok w →
      ∃ c n, bundle.capabilities.find? (·.accepts v) = some c ∧ (c.asExpression v).result = .ok n ∧
        (∃ text, n = .literal c.type text) ∧ w = .node n ∧
        (bundle.types.Nodup → (bundle.lift v c.type).result = .ok w)) ∧
    ∀ left right, left.isNode = false ∨ right.isNode = false →
      bundle.equate left right =
        (bundle.prepare left right >>= fun operands => Node.equate operands.1 operands.2) ∧
      (∀ operands, (bundle.prepare left right).result = .ok operands →
        ∃ n m, operands = (.node n, .node m) ∧ (∃ raw, bundle.Faces left right (.node n) raw) ∧
          (¬(Value.node n).LacksType →
            Node.equate (.node n) (.node m) = pure (.node (Node.comparison n m)))) ∧
      ∀ failure, (bundle.equate left right).result = .error failure →
        bundle.FailsToLift left right failure ∨
          ∃ node raw, bundle.Faces left right node raw ∧ node.LacksType := by
  refine ⟨?_, ?_, ?_⟩
  · intro v type w lifted
    exact ⟨node_of_lift lifted, lift_lifted lifted⟩
  · intro v w isRaw lifted
    obtain ⟨c, n, first, converted, literal, rfl⟩ := converted_by_first isRaw lifted
    exact ⟨c, n, first, converted, literal, rfl,
      fun distinct => lift_at_first_type distinct isRaw first converted⟩
  · intro left right oneRaw
    exact ⟨equate_eq_prepare bundle left right, fun _ => join_of_prepare oneRaw,
      fun _ => lift_fails_of_equate oneRaw⟩

/-- A text is lifted to a literal, again at its type, and to nothing else from there. Compared with the
absent value it fails, for that cannot be lifted to the type of the literal. -/
theorem lifted_operands_compare_of_text :
    let bundle : Bundle := .ofStandard [.text {}, .integer]
    let literal := Node.literal .str "'ok'"
    bundle.types.Nodup ∧ (bundle.lift (.str "ok") .absent).result = .ok (.node literal) ∧
      (bundle.lift (.str "ok") .str).result = .ok (.node literal) ∧
      bundle.lift (.node literal) .str = pure (.node literal) ∧
      ∃ failure, (bundle.equate (.str "ok") .none).result = .error failure ∧
        bundle.FailsToLift (.str "ok") .none failure := by
  intro bundle literal
  obtain ⟨again, coherent, compares⟩ := lifted_operands_compare bundle
  have distinct : bundle.types.Nodup := by decide
  have lifted : (bundle.lift (.str "ok") .absent).result = .ok (.node literal) := rfl
  obtain ⟨c, n, first, converted, -, same, atType⟩ := coherent _ _ rfl lifted
  obtain rfl : StandardCapability.toCapability (.text {}) = c := Option.some.inj first
  have atStr := atType distinct
  obtain ⟨-, -, fails⟩ := compares (.str "ok") .none (.inl rfl)
  refine ⟨distinct, lifted, atStr, (again _ _ _ atStr).2.1, _, rfl, ?_⟩
  refine (fails _ rfl).resolve_right ?_
  rintro ⟨_, _, faces, n, rfl, lacking⟩
  cases faces with
  | lifted _ _ other =>
    rw [lifted] at other
    cases other
    simp [literal, Node.type?] at lacking

end Bundle

end FilterAlgebra
