import FilterAlgebra.Blueprint
import FilterAlgebra.Proofs.Agreement

/-!
# Which conversion an operand is sent to

Results say what becomes of operands that are accepted; this module says what becomes of
all of them, failures and records included. A raw operand is sent to the conversion of the
capability that is picked for it, or it is refused in a way that does not depend on the
bundle (`Bundle.lift_raw`). Through the adapters of a bundle an operand that can be asked
for its type is sent to the adapter that is found for it, and any other node fails at the
first type (`AdapterSet.resolve_ofBundle_untyped`).
-/

set_option autoImplicit false

namespace FilterAlgebra

namespace Bundle

variable {bundle : Bundle} {v : Value} {type : SemanticType} {n : Node}

/-- How a raw operand is refused for which no capability is picked. -/
def refuseUnpicked (v : Value) (type : SemanticType) : Traced Value :=
  if type = .absent then Traced.fail (.refused (.acceptedByNone v.className) v none none)
  else do
    let name ← Traced.ofFault type.name
    Traced.fail (.refused (.noCapability name) .none (some type) none)

/-- What a raw operand is sent to: the conversion of a capability, or a refusal. -/
def send (v : Value) (type : SemanticType) : Option Capability → Traced Value
  | some c => Value.node <$> c.asExpression v
  | none => refuseUnpicked v type

/-- A raw operand is sent to the capability that is picked for it. -/
theorem lift_raw (bundle : Bundle) (raw : v.isNode = false) (type : SemanticType) :
    bundle.lift v type = send v type (bundle.pick? v type) := by
  have members : bundle.lifting.members = pure bundle.capabilities := rfl
  have capabilityFor : bundle.lifting.capabilityFor type = bundle.capabilityFor type := rfl
  have convert (c : Capability) : bundle.lifting.convert c v = Value.node <$> c.asExpression v := rfl
  unfold lift Lifting.lift pick?
  by_cases habsent : type = .absent
  · rw [if_pos habsent, if_pos habsent]
    simp only [Lifting.liftAny, Operands.values_isNode, raw, pure_bind, Bool.false_eq_true, if_false,
      members, firstAccepting_eq_find?]
    cases bundle.capabilities.find? (·.accepts v) with
    | some c => exact convert c
    | none => simp [send, refuseUnpicked, habsent]
  · rw [if_neg habsent, if_neg habsent]
    simp only [Lifting.liftTo, Operands.values_isNode, raw, pure_bind, Bool.false_eq_true, if_false,
      capabilityFor, Bundle.capabilityFor]
    cases bundle.capability? type with
    | some c =>
      rw [pure_bind]
      exact convert c
    | none => simp [send, refuseUnpicked, habsent]

/-- What becomes of a node does not depend on the bundle. -/
theorem lift_node (bundle : Bundle) (n : Node) (type : SemanticType) :
    bundle.lift (.node n) type =
      if type = .absent then pure (.node n)
      else Lifting.requireType Operands.values (.node n) type := by
  unfold lift Lifting.lift Lifting.liftAny Lifting.liftTo
  simp only [Operands.values_isNode, Value.isNode_node, pure_bind, if_true]

end Bundle

namespace AdapterSet

section Parts

variable (set : AdapterSet) (v : Value) (type : SemanticType)

/-- The types of a search through adapters are their targets, each once. -/
theorem search_targets : set.search.targets = pure set.targetTypes := rfl

/-- Filters are expressions of the truth type. -/
theorem search_truth : set.search.truth = pure .bool := rfl

/-- An operand reaches a type if it finds an adapter there. -/
theorem search_reaches : set.search.reaches v type = Option.isSome <$> set.resolve v type := rfl

end Parts

/-- A node without a type cannot be sent anywhere: the first identity adapter that is asked for it
asks it for its type. -/
theorem resolve_ofBundle_untyped {bundle : Bundle} {n : Node} {type : SemanticType}
    (untyped : n.type? = none) (hreach : type ∈ bundle.reachable) :
    (ofBundle bundle).resolve (.node n) type =
      Traced.fail (.fault (.missingAttribute (Value.node n).holder "semantic_type")) := by
  obtain ⟨capabilities⟩ := bundle
  have rawPasses (c : Capability) : (Adapter.raw c).accepts (.node n) = .ok false := by
    simp [Adapter.accepts]
  have identityFails (other : SemanticType) : (Adapter.identity other).accepts (.node n) =
      .error (.missingAttribute (Value.node n).holder "semantic_type") := by
    simp [Adapter.accepts, Value.semanticType, untyped, Fault.ofOption, Bind.bind, Except.bind]
  simp only [resolve, ofBundle, Bundle.reachable, Bundle.types] at hreach ⊢
  induction capabilities with
  | nil =>
    obtain rfl : type = .bool := by simpa using hreach
    simp [Search.firstAccepting, identityFails]
  | cons c rest ih =>
    simp only [List.flatMap_cons, List.cons_append, List.nil_append, Search.firstAccepting,
      Adapter.target_raw, Adapter.target_identity, pure_bind, rawPasses, identityFails,
      Traced.ofFault_ok, Traced.ofFault_error, Traced.fail_bind, Bool.false_eq_true, if_false]
    by_cases ht : c.type = type
    · simp only [ht, if_true]
    · simp only [ht, if_false]
      apply ih
      simpa [Ne.symm ht] using hreach

end AdapterSet

namespace Blueprint

/-- The filter of a blueprint is built of what the blueprint comes to. -/
theorem build_eq (t : Blueprint) (bundle : Bundle) :
    t.build bundle = Operands.values.buildFilter bundle.opening (t.eval bundle.operators) := rfl

/-- A blueprint over adapters is built by the operators of the set. -/
theorem buildUnified_eq (t : Blueprint) (bundle : Bundle) :
    t.buildUnified bundle = Operands.values.buildFilter (AdapterSet.ofBundle bundle).opening
      (t.eval (AdapterSet.ofBundle bundle).operators) := rfl

end Blueprint

end FilterAlgebra
