import FilterAlgebra.Proofs.Defaults
import FilterAlgebra.Proofs.Dispatch

/-!
# Who is to blame for a conjunction

A conjunction of two operands that are not both filters is refused, and the refusal carries
the left operand unless that one is a filter (`Value.blamed`). The checked conjunction finds
this out by judging its operands in turn, the adapters of a bundle by a second search after
the first has come to nothing. `Bundle.conjunctions_agree` is the main result: the two come to
one filter or refuse one operand, and so does the sign where it comes to a node. Where the class
of the left operand has an answer of its own the sign may do anything
(`Bundle.sign_disagrees_on_listing`).
-/

set_option autoImplicit false

namespace FilterAlgebra

/-- Classes whose objects answer the sign with the items of the other operand, as a list. -/
def ForeignSigns.listing : ForeignSigns where
  onLeft _ right := (some ∘ Value.list) <$> Traced.ofFault right.items
  onRight left _ := (some ∘ Value.list) <$> Traced.ofFault left.items

namespace Value

/-- Whether a value is a filter, that is, a node of the truth type. -/
def isFilter : Value → Bool
  | node n => n.type? = some .bool
  | _ => false

/-- The operand of a failed conjunction that is to blame: the left one unless it is a filter. -/
def blamed (left right : Value) : Value :=
  if left.isFilter then right else left

/-- An operand that is raw, or a node of a type that is known by a name, as all classes are. -/
def Named (v : Value) : Prop :=
  ∀ n, v = node n → ∃ type name, n.type? = some type ∧ type.name = .ok name

variable {v left right : Value}

/-- A raw operand has no type to be known. -/
theorem named_of_raw (raw : v.isNode = false) : v.Named := by
  rintro n rfl
  simp at raw

/-- A property is known by the type of its kind. -/
theorem named_property (kind : PropertyKind) (name : Text) {type : SemanticType} {typeName : String}
    (htype : kind.type? = some type) (hname : type.name = .ok typeName) :
    (node (.property kind name)).Named := by
  intro n hn
  obtain rfl := node.inj hn
  exact ⟨type, typeName, htype, hname⟩

/-- A node is a filter exactly if its type is the truth type. -/
@[simp] theorem isFilter_node (n : Node) : (node n).isFilter = decide (n.type? = some .bool) := rfl

/-- No raw value is a filter. -/
theorem isFilter_of_raw (raw : v.isNode = false) : v.isFilter = false := by
  cases v <;> simp_all [isFilter, isNode]

/-- A type that is known by a name is a type. -/
theorem Named.typed (named : v.Named) : v.Typed := by
  intro n hn
  obtain ⟨type, -, htype, -⟩ := named n hn
  simp [htype]

/-- The operand that is to blame is no filter, unless both are filters. -/
theorem isFilter_blamed (h : (left.isFilter && right.isFilter) = false) :
    (left.blamed right).isFilter = false := by
  unfold blamed
  cases hl : left.isFilter with
  | true => simpa [hl] using h
  | false => simpa using hl

end Value

/-- An operand that is known by its type passes as a filter exactly if it is one, and otherwise it is
the one that is refused. -/
theorem Operands.requireFilter_eq {v : Value} (named : v.Named) (reason : String → Refusal) :
    ∃ word, values.requireFilter reason v =
      if v.isFilter then pure ()
      else Traced.fail (.refused (reason word) v (some .bool) none) := by
  cases hv : v.isNode with
  | false => exact ⟨v.className, by simp [requireFilter, hv, Value.isFilter_of_raw hv]⟩
  | true =>
    obtain ⟨n, rfl⟩ := Value.eq_node_of_isNode hv
    obtain ⟨type, name, htype, hname⟩ := named n rfl
    have hsem := Value.semanticType_node_eq_ok.mpr htype
    refine ⟨expressionOf name, ?_⟩
    by_cases hbool : type = .bool
    · subst hbool
      simp [requireFilter, hsem, htype]
    · simp [requireFilter, hsem, htype, hbool, hname]

/-- The checked conjunction of two operands is their plain join if both are filters, and otherwise it
refuses the one that is to blame. -/
theorem Node.conjoin_eq {left right : Value} (namedLeft : left.Named) (namedRight : right.Named) :
    ∃ word, Node.conjoin left right =
      if left.isFilter && right.isFilter then
        pure (.node (.binary left conjunctionSign right .bool))
      else Traced.fail (.refused (.notFilter word) (left.blamed right) (some .bool) none) := by
  obtain ⟨leftWord, hleft⟩ := Operands.requireFilter_eq namedLeft .notFilter
  obtain ⟨rightWord, hright⟩ := Operands.requireFilter_eq namedRight .notFilter
  refine ⟨if left.isFilter then rightWord else leftWord, ?_⟩
  rw [Node.conjoin, Operands.conjoin, hleft, hright]
  cases hl : left.isFilter with
  | false => simp [hl, Value.blamed]
  | true =>
    cases hr : right.isFilter with
    | false =>
      simp only [Value.blamed, hl, Bool.and_false, Bool.false_eq_true, if_true, if_false, pure_bind,
        Traced.fail_bind]
    | true => simp

namespace AdapterSet

variable {bundle : Bundle} {v left right : Value}

/-- Without a capability for the truth type only filters find an adapter there. -/
theorem resolve_ofBundle_bool (noBool : SemanticType.bool ∉ bundle.types) (typed : v.Typed) :
    (ofBundle bundle).resolve v .bool =
      pure (if v.isFilter then some (.identity .bool) else none) := by
  rw [resolve_eq_find? typed]
  congr 1
  cases hv : v.isNode with
  | false =>
    have nobody : bundle.capabilities.find? (fun c => c.type = .bool && c.accepts v) = none := by
      rw [List.find?_eq_none]
      intro c hc
      have : c.type ≠ .bool := fun hbool => noBool (List.mem_map.mpr ⟨c, hc, hbool⟩)
      simp [this]
    rw [find?_ofBundle_raw bundle hv, nobody, Value.isFilter_of_raw hv]
    rfl
  | true =>
    obtain ⟨n, rfl⟩ := Value.eq_node_of_isNode hv
    obtain ⟨own, hown⟩ := Option.isSome_iff_exists.mp (typed n rfl)
    have hreach : SemanticType.bool ∈ bundle.reachable := by simp [Bundle.reachable]
    rw [find?_ofBundle_node bundle hown]
    simp [hown, hreach]

/-- The conjunction through the adapters of a bundle without a capability for the truth type. -/
theorem conjoin_ofBundle (noBool : SemanticType.bool ∉ bundle.types) (typedLeft : left.Typed)
    (typedRight : right.Typed) :
    (ofBundle bundle).conjoin left right =
      if left.isFilter && right.isFilter then
        pure (.node (.binary left conjunctionSign right .bool))
      else Traced.fail (.refused (.noFilterConversion (left.blamed right).className)
        (left.blamed right) (some .bool) none) := by
  have hleft := resolve_ofBundle_bool noBool typedLeft
  have hright := resolve_ofBundle_bool noBool typedRight
  have combined : (ofBundle bundle).search.combine left conjunctionSign right .bool =
      pure (if left.isFilter && right.isFilter then
        some (.node (.binary left conjunctionSign right .bool)) else none) := by
    simp only [search, Search.combineBy, hleft, hright, pure_bind]
    cases left.isFilter <;> cases right.isFilter <;> simp [Adapter.toExpression]
  have blame : (ofBundle bundle).search.blame left right = pure (left.blamed right) := by
    rw [Search.blame, search_truth, pure_bind, search_reaches, hleft]
    cases hl : left.isFilter <;> simp [Value.blamed, hl]
  rw [conjoin, Search.conjoin, search_truth, pure_bind, combined, pure_bind]
  cases left.isFilter && right.isFilter with
  | true => rfl
  | false => simp [blame]

end AdapterSet

namespace Bundle

/-- **The two conjunctions agree, also on failure and on whom they blame.** Over a bundle without a
capability for the truth type, two operands that are filters are joined as they stand, and of any
others the left one is refused unless it is a filter, by the checked conjunction and by the adapters of
the bundle. The sign is the checked conjunction wherever it comes to a node: one on the left, or one on
the right of an operand whose class leaves the sign to it. -/
theorem conjunctions_agree (bundle : Bundle) (noBool : SemanticType.bool ∉ bundle.types)
    {left right : Value} (namedLeft : left.Named) (namedRight : right.Named) :
    (if left.isFilter && right.isFilter then
      (AdapterSet.ofBundle bundle).conjoin left right =
          pure (.node (.binary left conjunctionSign right .bool)) ∧
        Node.conjoin left right = pure (.node (.binary left conjunctionSign right .bool))
    else
      (left.blamed right).isFilter = false ∧ ∃ why why',
        (AdapterSet.ofBundle bundle).conjoin left right =
            Traced.fail (.refused why (left.blamed right) (some .bool) none) ∧
          Node.conjoin left right =
            Traced.fail (.refused why' (left.blamed right) (some .bool) none)) ∧
    ∀ foreign : ForeignSigns, foreign.ReachNode left right →
      Node.ampersand foreign left right = Node.conjoin left right := by
  obtain ⟨word, checked⟩ := Node.conjoin_eq namedLeft namedRight
  have unified := AdapterSet.conjoin_ofBundle noBool namedLeft.typed namedRight.typed
  constructor
  · split
    · rename_i filters
      rw [if_pos filters] at checked unified
      exact ⟨unified, checked⟩
    · rename_i unfit
      rw [if_neg unfit] at checked unified
      exact ⟨Value.isFilter_blamed (eq_false_of_ne_true unfit), _, _, unified, checked⟩
  · intro foreign reach
    exact Node.ampersand_of_reaches reach

/-- A property of the truth type and a number: the number is blamed, on either side. -/
theorem conjunctions_agree_on_number :
    let active := Value.node (.property .boolean (.plain "active"))
    let set := AdapterSet.ofBundle (.default {})
    (∃ why, set.conjoin active (.int 1) = Traced.fail (.refused why (.int 1) (some .bool) none)) ∧
      (∃ why, Node.conjoin (.int 1) active = Traced.fail (.refused why (.int 1) (some .bool) none)) ∧
      Node.ampersand .silent (.int 1) active = Node.conjoin (.int 1) active := by
  intro active set
  have noBool := Bundle.bool_notMem_default {}
  have namedActive : active.Named := Value.named_property .boolean (.plain "active") rfl rfl
  have namedOne : (Value.int 1).Named := Value.named_of_raw rfl
  obtain ⟨-, why, -, unified, -⟩ :=
    (conjunctions_agree (.default {}) noBool namedActive namedOne).1
  obtain ⟨⟨-, -, why', -, checked⟩, sign⟩ :=
    conjunctions_agree (.default {}) noBool namedOne namedActive
  have reach : ForeignSigns.silent.ReachNode (.int 1) active := .inr ⟨rfl, fun h => nomatch h⟩
  exact ⟨⟨why, unified⟩, ⟨why', checked⟩, sign .silent reach⟩

/-- A class that users build on integers and whose objects answer the sign with the list of the other
operand's items: no node has items, so the sign ends in a fault that carries neither a value nor a type,
while both conjunctions refuse the integer. -/
theorem sign_disagrees_on_listing :
    let active := Value.node (.property .boolean (.plain "active"))
    let zero := Value.derived
      ⟨0, "Keys", .object "Keys", .error (.missingAttribute (.object "Keys") "__name__"), .ok "0", .ok "0"⟩
      (.int 0)
    let set := AdapterSet.ofBundle (.default {})
    SemanticType.bool ∉ (Bundle.default {}).types ∧ zero.Named ∧ active.Named ∧
      (∃ why, set.conjoin zero active = Traced.fail (.refused why zero (some .bool) none)) ∧
      (∃ why, Node.conjoin zero active = Traced.fail (.refused why zero (some .bool) none)) ∧
      Node.ampersand .listing zero active = Traced.fail (.fault (.notIterable "Boolean")) := by
  intro active zero set
  exact ⟨Bundle.bool_notMem_default {}, Value.named_of_raw rfl,
    Value.named_property .boolean (.plain "active") rfl rfl, ⟨_, rfl⟩, ⟨_, rfl⟩, rfl⟩

end Bundle

end FilterAlgebra
