import FilterAlgebra.Proofs.Defaults

/-!
# Evaluating blueprints in both designs

The joins of a blueprint are evaluated one by one, so what holds of one comparison and of
one conjunction holds of whole blueprints by induction. `Blueprint.designs_agree` is the
main result: over a bundle with distinct types, what one design builds the other builds
as well, under the conditions that single joins need.
-/

set_option autoImplicit false

namespace FilterAlgebra

/-- Whatever joins come to is a filter. -/
structure Operators.MakeFilters (operators : Operators) : Prop where
  equate : ∀ {left right v : Value}, (operators.equate left right).result = .ok v →
    ∃ n, v = .node n ∧ n.type? = some .bool
  conjoin : ∀ {left right v : Value}, (operators.conjoin left right).result = .ok v →
    ∃ n, v = .node n ∧ n.type? = some .bool

/-- The operators of a bundle give nothing but filters. -/
theorem Bundle.operators_makeFilters (bundle : Bundle) : bundle.operators.MakeFilters where
  equate h := by
    obtain ⟨_, l, r, -, -, rfl⟩ := Bundle.equate_eq_ok_iff.mp h
    exact ⟨_, rfl, rfl⟩
  conjoin h := by
    obtain ⟨l, r, -, -, -, -, rfl⟩ := Node.conjoin_eq_ok_iff.mp h
    exact ⟨_, rfl, rfl⟩

/-- The operators of a set of adapters give nothing but filters. -/
theorem AdapterSet.operators_makeFilters (set : AdapterSet) : set.operators.MakeFilters where
  equate h := by
    obtain ⟨_, l, r, -, -, -, rfl⟩ := AdapterSet.equate_eq_ok_iff.mp h
    exact ⟨_, rfl, rfl⟩
  conjoin h := by
    obtain ⟨l, r, -, -, rfl⟩ := AdapterSet.conjoin_eq_ok_iff.mp h
    exact ⟨_, rfl, rfl⟩

namespace Blueprint

variable {operators : Operators} {left right t : Blueprint} {v : Value} {bundle : Bundle}

/-- A comparison comes to something exactly if both sides do and what they come to can be compared. -/
theorem eval_equality_eq_ok_iff :
    ((equality left right).eval operators).result = .ok v ↔
      ∃ l r, (left.eval operators).result = .ok l ∧ (right.eval operators).result = .ok r ∧
        (operators.equate l r).result = .ok v := by
  simp only [eval, Traced.result_bind_eq_ok]
  exact ⟨fun ⟨l, hl, r, hr, h⟩ => ⟨l, r, hl, hr, h⟩, fun ⟨l, r, hl, hr, h⟩ => ⟨l, hl, r, hr, h⟩⟩

/-- A conjunction comes to something exactly if both sides do and what they come to can be joined. -/
theorem eval_conjunction_eq_ok_iff :
    ((conjunction left right).eval operators).result = .ok v ↔
      ∃ l r, (left.eval operators).result = .ok l ∧ (right.eval operators).result = .ok r ∧
        (operators.conjoin l r).result = .ok v := by
  simp only [eval, Traced.result_bind_eq_ok]
  exact ⟨fun ⟨l, hl, r, hr, h⟩ => ⟨l, r, hl, hr, h⟩, fun ⟨l, r, hl, hr, h⟩ => ⟨l, hl, r, hr, h⟩⟩

/-- An operand comes to itself. -/
theorem eval_operand_eq_ok_iff {w : Value} :
    ((operand v).eval operators).result = .ok w ↔ w = v := by
  simp [eval, eq_comm]

/-- A filter is built over a bundle exactly if the blueprint comes to one. -/
theorem build_eq_ok_iff :
    (t.build bundle).result = .ok v ↔
      (t.eval bundle.operators).result = .ok v ∧ ∃ n, v = .node n ∧ n.type? = some .bool :=
  Operands.buildFilter_eq_ok_iff

/-- A filter is built over the adapters of a bundle exactly if the blueprint comes to one. -/
theorem buildUnified_eq_ok_iff :
    (t.buildUnified bundle).result = .ok v ↔
      (t.eval (AdapterSet.ofBundle bundle).operators).result = .ok v ∧
        ∃ n, v = .node n ∧ n.type? = some .bool :=
  Operands.buildFilter_eq_ok_iff

/-- The type of the node that a blueprint comes to: joins come to filters, and a raw operand comes
to no node. -/
def nodeType? : Blueprint → Option SemanticType
  | operand (.node n) => n.type?
  | operand _ => none
  | equality .. | conjunction .. => some .bool

/-- Wherever two nodes of one type are compared, it is one of the given types. -/
def ComparesAt (types : List SemanticType) : Blueprint → Prop
  | operand _ => True
  | equality left right =>
    left.ComparesAt types ∧ right.ComparesAt types ∧
      ∀ type, left.nodeType? = some type → right.nodeType? = some type → type ∈ types
  | conjunction left right => left.ComparesAt types ∧ right.ComparesAt types

/-- What a blueprint comes to has the type that can be read off the blueprint. -/
theorem nodeType?_eq_some_iff (filters : operators.MakeFilters)
    (h : (t.eval operators).result = .ok v) {type : SemanticType} :
    t.nodeType? = some type ↔ ∃ n, v = .node n ∧ n.type? = some type := by
  have joined (hbool : ∃ n, v = .node n ∧ n.type? = some .bool) :
      some SemanticType.bool = some type ↔ ∃ n, v = .node n ∧ n.type? = some type := by
    obtain ⟨n, rfl, hn⟩ := hbool
    constructor
    · intro htype
      exact ⟨n, rfl, hn.trans htype⟩
    · rintro ⟨m, hm, hmt⟩
      cases hm
      exact hn.symm.trans hmt
  cases t with
  | operand w =>
    rw [eval_operand_eq_ok_iff] at h
    subst h
    cases v <;> simp [nodeType?]
  | equality left right =>
    obtain ⟨l, r, -, -, hjoin⟩ := eval_equality_eq_ok_iff.mp h
    exact joined (filters.equate hjoin)
  | conjunction left right =>
    obtain ⟨l, r, -, -, hjoin⟩ := eval_conjunction_eq_ok_iff.mp h
    exact joined (filters.conjoin hjoin)

/-- What a blueprint comes to over a bundle it comes to over the adapters of the bundle. -/
theorem eval_unified_of_eval (distinct : bundle.types.Nodup) (known : t.ComparesAt bundle.reachable)
    (h : (t.eval bundle.operators).result = .ok v) :
    (t.eval (AdapterSet.ofBundle bundle).operators).result = .ok v := by
  induction t generalizing v with
  | operand w => exact h
  | equality left right ihl ihr =>
    obtain ⟨l, r, hl, hr, hjoin⟩ := eval_equality_eq_ok_iff.mp h
    obtain ⟨knownLeft, knownRight, here⟩ := known
    refine eval_equality_eq_ok_iff.mpr ⟨l, r, ihl knownLeft hl, ihr knownRight hr, ?_⟩
    refine AdapterSet.equate_of_bundle_equate distinct ?_ hjoin
    intro n m type hn hm hnt hmt
    exact here type
      ((nodeType?_eq_some_iff bundle.operators_makeFilters hl).mpr ⟨n, hn, hnt⟩)
      ((nodeType?_eq_some_iff bundle.operators_makeFilters hr).mpr ⟨m, hm, hmt⟩)
  | conjunction left right ihl ihr =>
    obtain ⟨l, r, hl, hr, hjoin⟩ := eval_conjunction_eq_ok_iff.mp h
    exact eval_conjunction_eq_ok_iff.mpr
      ⟨l, r, ihl known.1 hl, ihr known.2 hr, AdapterSet.conjoin_of_bundle_conjoin hjoin⟩

/-- What a blueprint comes to over the adapters of a bundle it comes to over the bundle. -/
theorem eval_of_eval_unified (distinct : bundle.types.Nodup) (unambiguous : bundle.Unambiguous)
    (noBool : SemanticType.bool ∉ bundle.types)
    (h : (t.eval (AdapterSet.ofBundle bundle).operators).result = .ok v) :
    (t.eval bundle.operators).result = .ok v := by
  induction t generalizing v with
  | operand w => exact h
  | equality left right ihl ihr =>
    obtain ⟨l, r, hl, hr, hjoin⟩ := eval_equality_eq_ok_iff.mp h
    exact eval_equality_eq_ok_iff.mpr
      ⟨l, r, ihl hl, ihr hr, AdapterSet.bundle_equate_of_equate distinct unambiguous hjoin⟩
  | conjunction left right ihl ihr =>
    obtain ⟨l, r, hl, hr, hjoin⟩ := eval_conjunction_eq_ok_iff.mp h
    exact eval_conjunction_eq_ok_iff.mpr
      ⟨l, r, ihl hl, ihr hr, AdapterSet.bundle_conjoin_of_conjoin noBool hjoin⟩

/-- Through adapters nodes are only compared at types that adapters lead to. -/
theorem comparesAt_of_eval_unified
    (h : (t.eval (AdapterSet.ofBundle bundle).operators).result = .ok v) :
    t.ComparesAt bundle.reachable := by
  induction t generalizing v with
  | operand w => trivial
  | equality left right ihl ihr =>
    obtain ⟨l, r, hl, hr, hjoin⟩ := eval_equality_eq_ok_iff.mp h
    refine ⟨ihl hl, ihr hr, fun type hleft _ => ?_⟩
    obtain ⟨n, rfl, hn⟩ :=
      (nodeType?_eq_some_iff (AdapterSet.operators_makeFilters _) hl).mp hleft
    exact AdapterSet.mem_reachable_of_equate hjoin hn
  | conjunction left right ihl ihr =>
    obtain ⟨l, r, hl, hr, -⟩ := eval_conjunction_eq_ok_iff.mp h
    exact ⟨ihl hl, ihr hr⟩

/-- **The two designs agree** over capabilities of distinct types. A filter that is built over the
bundle is built over its adapters, if nodes are compared at the truth type or at the type of a
capability. A filter that is built over the adapters is built over the bundle, if no raw value is
accepted by two capabilities and none serves the truth type. -/
theorem designs_agree (bundle : Bundle) (distinct : bundle.types.Nodup) (t : Blueprint) (v : Value) :
    ((t.build bundle).result = .ok v → t.ComparesAt (bundle.types ++ [.bool]) →
      (t.buildUnified bundle).result = .ok v) ∧
    ((t.buildUnified bundle).result = .ok v → bundle.Unambiguous → SemanticType.bool ∉ bundle.types →
      (t.build bundle).result = .ok v) := by
  rw [build_eq_ok_iff, buildUnified_eq_ok_iff]
  constructor
  · rintro ⟨h, filter⟩ known
    exact ⟨eval_unified_of_eval distinct known h, filter⟩
  · rintro ⟨h, filter⟩ unambiguous noBool
    exact ⟨eval_of_eval_unified distinct unambiguous noBool h, filter⟩

/-- A text on the left of a property, and two properties of the truth type. -/
theorem designs_agree_on_quoted_text :
    let name := Node.property .text (.plain "name")
    let active := Node.property .boolean (.plain "active")
    let t := conjunction (equality (operand (.str "it's")) (operand (.node name)))
      (equality (operand (.node active)) (operand (.node active)))
    let quoted := Node.literal .str (QuoteStyle.quote {} "it's")
    let v := Value.node ((name.comparison quoted).conjunction (active.comparison active))
    (t.build (.default {})).result = .ok v ∧ (t.buildUnified (.default {})).result = .ok v := by
  intro name active t quoted v
  have distinct := Bundle.distinct_default {}
  have built : (t.build (.default {})).result = .ok v := rfl
  have known : t.ComparesAt ((Bundle.default {}).types ++ [.bool]) := by
    simp [t, active, ComparesAt, nodeType?, Node.type?, PropertyKind.type?]
  have unified := (designs_agree (.default {}) distinct t v).1 built known
  exact ⟨(designs_agree (.default {}) distinct t v).2 unified (Bundle.unambiguous_default {})
    (Bundle.bool_notMem_default {}), unified⟩

end Blueprint

end FilterAlgebra
