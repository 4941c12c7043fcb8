import FilterAlgebra.Capability.Standard
import FilterAlgebra.Proofs.Expansion

/-!
# What the adapters of a bundle resolve

The adapters of a bundle are one list of two kinds in turn, and an operand is resolved by the
first of them that leads to the type and accepts it. The kind is decided by the operand: a raw
adapter never takes a node, whatever its capability accepts, and an identity adapter takes
nothing else (`AdapterSet.kind_of_resolve`). `AdapterSet.resolves_as_registered` is the main
result: it reads off the bundle which types there are and what resolves at each of them.
-/

set_option autoImplicit false

namespace FilterAlgebra

namespace AdapterSet

variable {set : AdapterSet} {bundle : Bundle} {v : Value} {type : SemanticType}

/-- A raw value is resolved by a raw adapter, and a node by the identity adapter of the type, which
hands it back. -/
theorem kind_of_resolve {a : Adapter} (h : (set.resolve v type).result = .ok (some a)) :
    (v.isNode = false ∧ ∃ c, a = .raw c) ∨
      (v.isNode = true ∧ a = .identity type ∧ a.toExpression v = pure v) := by
  obtain ⟨-, target, fits⟩ := fits_of_resolve h
  cases a with
  | raw c =>
    have shape : v.isNode = false ∧ c.accepts v = true := by simpa [Adapter.fits] using fits
    exact .inl ⟨shape.1, c, rfl⟩
  | identity own =>
    obtain rfl : own = type := target
    cases isNode : v.isNode with
    | true => exact .inr ⟨rfl, rfl, rfl⟩
    | false => cases v <;> simp_all [Adapter.fits]

/-- No type is listed twice among the targets of a set. -/
theorem nodup_targetTypes (set : AdapterSet) : set.targetTypes.Nodup := by
  rw [targetTypes, distinctTypes_eq_eraseDups]
  exact nodup_eraseDups _

/-- A raw value is resolved to the raw adapter of the first capability of the type that accepts it. -/
theorem resolve_ofBundle_raw (raw : v.isNode = false) (type : SemanticType) :
    (ofBundle bundle).resolve v type =
      pure ((bundle.capabilities.find? fun c => c.type = type && c.accepts v).map .raw) := by
  rw [resolve_eq_find? (Value.typed_of_raw raw), find?_ofBundle_raw bundle raw]

/-- A node is resolved to the identity adapter of its type, if the set leads there. -/
theorem resolve_ofBundle_typed {n : Node} {own : SemanticType} (typed : n.type? = some own)
    (type : SemanticType) :
    (ofBundle bundle).resolve (.node n) type =
      pure (if own = type ∧ type ∈ (ofBundle bundle).targetTypes then some (.identity type)
        else none) := by
  have asked : (Value.node n).Typed := by
    rintro m same
    obtain rfl := Value.node.inj same
    simp [typed]
  rw [resolve_eq_find? asked, find?_ofBundle_node bundle typed]
  simp only [mem_targetTypes_ofBundle]

/-- **The adapters of a bundle resolve as the bundle says.** The types within reach are those of its
capabilities, each once and in the place where it comes first, and the truth type, in the end unless a
capability serves it. A node resolves at its own type, if that is one of them, and nowhere else, by the
identity adapter; a raw value resolves at a type by the raw adapter of the first capability of that
type that accepts it. No node ever resolves by a raw adapter and no raw value by an identity adapter. -/
theorem resolves_as_registered (bundle : Bundle) :
    ((ofBundle bundle).targetTypes =
        (bundle.types.eraseDups ++ if SemanticType.bool ∈ bundle.types then [] else [.bool]) ∧
      (ofBundle bundle).targetTypes.Nodup) ∧
    (∀ n own type, n.type? = some own →
      (ofBundle bundle).resolve (.node n) type =
        pure (if own = type ∧ type ∈ (ofBundle bundle).targetTypes then some (.identity type)
          else none)) ∧
    (∀ v type, v.isNode = false →
      (ofBundle bundle).resolve v type =
        pure ((bundle.capabilities.find? fun c => c.type = type && c.accepts v).map .raw)) ∧
    ∀ v type a, ((ofBundle bundle).resolve v type).result = .ok (some a) →
      (v.isNode = false ∧ ∃ c, a = .raw c) ∨
        (v.isNode = true ∧ a = .identity type ∧ a.toExpression v = pure v) := by
  refine ⟨⟨targetTypes_ofBundle bundle, nodup_targetTypes _⟩, ?_, ?_, ?_⟩
  · intro n own type typed
    exact resolve_ofBundle_typed typed type
  · intro v type raw
    exact resolve_ofBundle_raw raw type
  · intro v type a resolved
    exact kind_of_resolve resolved

/-- Two capabilities serve integers, and one for the truth type accepts everything, nodes included: a
filter still resolves by the identity adapter, and an odd integer by the second capability. -/
theorem resolves_as_registered_of_greedy :
    let greedy : Capability := ⟨"Greedy", .bool, .ok, fun _ => .ok "true", rfl⟩
    let evens := StandardCapability.evenInteger.toCapability
    let integers := StandardCapability.integer.toCapability
    let set := ofBundle ⟨[evens, greedy, integers]⟩
    let active := Node.property .boolean (.plain "active")
    set.targetTypes = [.int, .bool] ∧ greedy.accepts (.node active) = true ∧
      set.resolve (.node active) .bool = pure (some (.identity .bool)) ∧
      (Adapter.identity .bool).toExpression (.node active) = pure (.node active) ∧
      set.resolve (.int 3) .int = pure (some (.raw integers)) := by
  intro greedy evens integers set active
  obtain ⟨⟨targets, -⟩, nodes, raws, kinds⟩ :=
    resolves_as_registered ⟨[evens, greedy, integers]⟩
  have within : set.targetTypes = [.int, .bool] := targets
  have resolved := nodes active .bool .bool rfl
  rw [if_pos ⟨rfl, within ▸ by simp⟩] at resolved
  have kind := kinds (.node active) .bool (.identity .bool) (by rw [resolved]; rfl)
  have handed := kind.resolve_left fun raw => by simp at raw
  exact ⟨within, rfl, resolved, handed.2.2, raws (.int 3) .int rfl⟩

end AdapterSet

end FilterAlgebra
