import FilterAlgebra.Proofs.Evaluation
import Mathlib.Data.List.Find

/-!
# More capabilities

A bundle can be extended by capabilities that are registered after its own. A search that
ends at a capability of the bundle still ends there, so what is built over a bundle is built
over every extension. Through adapters the new capabilities could take a value at a type at
which it found no adapter before, unless their types are new; then the only type that moves
to a later place is the truth type, and what is compared there are nodes.
`Blueprint.extension_keeps_filters` is the main result.
-/

set_option autoImplicit false

namespace FilterAlgebra

/-- A bundle with more capabilities registered after its own. -/
def Bundle.extend (bundle : Bundle) (more : List Capability) : Bundle :=
  ⟨bundle.capabilities ++ more⟩

/-- Whatever joins come to in one way they also come to in another. -/
structure Operators.Within (operators other : Operators) : Prop where
  equate : ∀ {left right v : Value}, (operators.equate left right).result = .ok v →
    (other.equate left right).result = .ok v
  conjoin : ∀ {left right v : Value}, (operators.conjoin left right).result = .ok v →
    (other.conjoin left right).result = .ok v

/-- What a blueprint comes to in one way it also comes to in another, if its joins do. -/
theorem Blueprint.eval_within {operators other : Operators} (within : operators.Within other)
    {t : Blueprint} {v : Value} (h : (t.eval operators).result = .ok v) :
    (t.eval other).result = .ok v := by
  induction t generalizing v with
  | operand w => exact h
  | equality left right ihl ihr =>
    obtain ⟨l, r, hl, hr, hjoin⟩ := eval_equality_eq_ok_iff.mp h
    exact eval_equality_eq_ok_iff.mpr ⟨l, r, ihl hl, ihr hr, within.equate hjoin⟩
  | conjunction left right ihl ihr =>
    obtain ⟨l, r, hl, hr, hjoin⟩ := eval_conjunction_eq_ok_iff.mp h
    exact eval_conjunction_eq_ok_iff.mpr ⟨l, r, ihl hl, ihr hr, within.conjoin hjoin⟩

namespace Bundle

variable {bundle : Bundle} {v : Value} {type : SemanticType} {n : Node}

/-- The types of an extended bundle are those it had, and then the new ones. -/
@[simp] theorem types_extend (bundle : Bundle) (more : List Capability) :
    (bundle.extend more).types = bundle.types ++ more.map (·.type) := by
  simp [types, extend]

/-- An extended bundle reaches all that it reached before. -/
theorem mem_reachable_extend (more : List Capability) (h : type ∈ bundle.reachable) :
    type ∈ (bundle.extend more).reachable := by
  simp only [reachable, types_extend, List.mem_append] at h ⊢
  cases h with
  | inl hown => exact .inl (.inl hown)
  | inr hbool => exact .inr hbool

/-- A search among the capabilities of a bundle ends where it ended before. -/
theorem find?_extend (more : List Capability) {p : Capability → Bool} {c : Capability}
    (h : bundle.capabilities.find? p = some c) :
    (bundle.extend more).capabilities.find? p = some c := by
  rw [extend, List.find?_append, h]
  rfl

/-- A value is converted at a type as before when capabilities are added in the end. -/
theorem Converts.extend (h : bundle.Converts v type n) (more : List Capability) :
    (bundle.extend more).Converts v type n := by
  obtain ⟨c, text, hpick, htype, hwrites, hn⟩ := h
  refine ⟨c, text, ?_, htype, hwrites, hn⟩
  unfold pick? at hpick ⊢
  split
  · rename_i habsent
    rw [if_pos habsent] at hpick
    exact find?_extend more hpick
  · rename_i hrequired
    rw [if_neg hrequired] at hpick
    exact find?_extend more hpick

/-- The first capability that accepts a value stays the first. -/
theorem ConvertsFirst.extend (h : bundle.ConvertsFirst v type n) (more : List Capability) :
    (bundle.extend more).ConvertsFirst v type n := by
  obtain ⟨c, text, hfind, h⟩ := h
  exact ⟨c, text, find?_extend more hfind, h⟩

/-- A bundle joins operands as its extensions do, whatever is added. -/
theorem operators_within_extend (bundle : Bundle) (more : List Capability) :
    bundle.operators.Within (bundle.extend more).operators where
  equate h := by
    obtain ⟨type, l, r, hl, hr, rfl⟩ := equate_eq_ok_iff.mp h
    exact equate_eq_ok_iff.mpr ⟨type, l, r, hl.imp fun _ h => h.extend more,
      hr.imp fun _ h => h.extend more, rfl⟩
  conjoin h := h

end Bundle

namespace AdapterSet

variable {bundle : Bundle} {more : List Capability} {v left right : Value} {type : SemanticType}
  {n : Node}

/-- What adapters bring to a type they bring there after more capabilities were added. -/
theorem Brings.extend (h : (ofBundle bundle).Brings v type n) (more : List Capability) :
    (ofBundle (bundle.extend more)).Brings v type n := by
  cases hv : v.isNode with
  | true =>
    obtain ⟨m, rfl⟩ := Value.eq_node_of_isNode hv
    obtain ⟨hm, hreach⟩ := brings_node_iff.mp h
    exact brings_node_iff.mpr ⟨hm, Bundle.mem_reachable_extend more hreach⟩
  | false =>
    obtain ⟨a, ha, hgives⟩ := h
    refine ⟨a, ?_, hgives⟩
    rw [find?_ofBundle_raw _ hv, Option.map_eq_some_iff] at ha ⊢
    obtain ⟨c, hfind, rfl⟩ := ha
    exact ⟨c, Bundle.find?_extend more hfind, rfl⟩

/-- At a type of a bundle no new operand finds an adapter, if the types that are added are new. -/
theorem isSome_find?_extend (fresh : ∀ c ∈ more, c.type ∉ bundle.types) (typed : v.Typed)
    (htype : type ∈ bundle.types) :
    ((ofBundle (bundle.extend more)).find? v type).isSome =
      ((ofBundle bundle).find? v type).isSome := by
  rw [Bool.eq_iff_iff]
  cases hv : v.isNode with
  | true =>
    obtain ⟨m, rfl⟩ := Value.eq_node_of_isNode hv
    obtain ⟨own, hown⟩ := Option.isSome_iff_exists.mp (typed m rfl)
    have hreach : type ∈ bundle.reachable := List.mem_append_left _ htype
    simp only [isSome_find?_node_iff hown, hreach, Bundle.mem_reachable_extend more hreach]
  | false =>
    rw [isSome_find?_raw_iff hv, isSome_find?_raw_iff hv]
    constructor
    · rintro ⟨c, hc, rfl, hcv⟩
      cases List.mem_append.mp hc with
      | inl hold => exact ⟨c, hold, rfl, hcv⟩
      | inr hnew => exact absurd htype (fresh c hnew)
    · rintro ⟨c, hc, hct, hcv⟩
      exact ⟨c, List.mem_append_left _ hc, hct, hcv⟩

/-- Where no capability serves the truth type, only filters reach it. -/
theorem filter_of_isSome_find? (noBool : SemanticType.bool ∉ bundle.types)
    (h : ((ofBundle bundle).find? v .bool).isSome = true) :
    ∃ m, v = .node m ∧ m.type? = some .bool := by
  obtain ⟨a, ha⟩ := Option.isSome_iff_exists.mp h
  cases hv : v.isNode with
  | true =>
    obtain ⟨m, rfl⟩ := Value.eq_node_of_isNode hv
    obtain ⟨own, hown⟩ := Option.isSome_iff_exists.mp (Adapter.typed_of_fits (mem_of_find? ha).2.2 m rfl)
    obtain ⟨rfl, -⟩ := (isSome_find?_node_iff hown).mp h
    exact ⟨m, rfl, hown⟩
  | false =>
    obtain ⟨c, hc, htype, -⟩ := (isSome_find?_raw_iff hv).mp h
    exact absurd (List.mem_map.mpr ⟨c, hc, htype⟩) noBool

/-- Two operands meet first at the type at which they met first before. -/
theorem find?_targetTypes_extend (fresh : ∀ c ∈ more, c.type ∉ bundle.types) (typedLeft : left.Typed)
    (typedRight : right.Typed)
    (h : (ofBundle bundle).targetTypes.find? ((ofBundle bundle).meet left right) = some type) :
    (ofBundle (bundle.extend more)).targetTypes.find?
      ((ofBundle (bundle.extend more)).meet left right) = some type := by
  have same : ∀ other ∈ bundle.types, (ofBundle (bundle.extend more)).meet left right other =
      (ofBundle bundle).meet left right other := by
    intro other hmem
    rw [meet, meet, isSome_find?_extend fresh typedLeft hmem, isSome_find?_extend fresh typedRight hmem]
  have sameFind : bundle.types.find? ((ofBundle (bundle.extend more)).meet left right) =
      bundle.types.find? ((ofBundle bundle).meet left right) :=
    List.find?_congr same
  rw [find?_targetTypes_ofBundle, Bundle.reachable, List.find?_append] at h
  cases hown : bundle.types.find? ((ofBundle bundle).meet left right) with
  | some own =>
    rw [find?_targetTypes_ofBundle, Bundle.reachable, Bundle.types_extend, List.find?_append,
      List.find?_append, sameFind, hown]
    simpa [hown] using h
  | none =>
    -- the operands met at the truth type behind all capabilities, so they are nodes
    obtain ⟨hmeet, rfl⟩ : (ofBundle bundle).meet left right .bool = true ∧ .bool = type := by
      simpa [hown] using h
    have noBool : SemanticType.bool ∉ bundle.types := by
      intro hmem
      exact List.find?_eq_none.mp hown .bool hmem hmeet
    obtain ⟨hleft, hright⟩ : ((ofBundle bundle).find? left .bool).isSome = true ∧
        ((ofBundle bundle).find? right .bool).isSome = true := by
      simpa [meet] using hmeet
    obtain ⟨l, rfl, hl⟩ := filter_of_isSome_find? noBool hleft
    obtain ⟨r, rfl, hr⟩ := filter_of_isSome_find? noBool hright
    have hreach : SemanticType.bool ∈ (bundle.extend more).reachable := by simp [Bundle.reachable]
    apply find?_targetTypes_node hl hreach
    rw [meet, (isSome_find?_node_iff hl).mpr ⟨rfl, hreach⟩,
      (isSome_find?_node_iff hr).mpr ⟨rfl, hreach⟩]
    rfl

/-- The adapters of a bundle join operands as those of its extensions do, if the types that are added
are new. -/
theorem operators_within_extend (fresh : ∀ c ∈ more, c.type ∉ bundle.types) :
    (ofBundle bundle).operators.Within (ofBundle (bundle.extend more)).operators where
  equate h := by
    obtain ⟨type, l, r, hfind, hl, hr, rfl⟩ := equate_eq_ok_iff.mp h
    exact equate_eq_ok_iff.mpr ⟨type, l, r, find?_targetTypes_extend fresh hl.typed hr.typed hfind,
      hl.extend more, hr.extend more, rfl⟩
  conjoin h := by
    obtain ⟨l, r, hl, hr, rfl⟩ := conjoin_eq_ok_iff.mp h
    exact conjoin_eq_ok_iff.mpr ⟨l, r, hl.extend more, hr.extend more, rfl⟩

end AdapterSet

namespace Blueprint

/-- **More capabilities keep every filter.** What is built over a bundle is built over the bundle
with any capabilities added. Through adapters this holds if the types of those are new. -/
theorem extension_keeps_filters (bundle : Bundle) (more : List Capability) (t : Blueprint) (v : Value) :
    ((t.build bundle).result = .ok v → (t.build (bundle.extend more)).result = .ok v) ∧
    ((t.buildUnified bundle).result = .ok v → (∀ c ∈ more, c.type ∉ bundle.types) →
      (t.buildUnified (bundle.extend more)).result = .ok v) := by
  rw [build_eq_ok_iff, build_eq_ok_iff, buildUnified_eq_ok_iff, buildUnified_eq_ok_iff]
  constructor
  · rintro ⟨h, filter⟩
    exact ⟨eval_within (bundle.operators_within_extend more) h, filter⟩
  · rintro ⟨h, filter⟩ fresh
    exact ⟨eval_within (AdapterSet.operators_within_extend fresh) h, filter⟩

/-- Capabilities for truth values and for floating-point numbers are added to the default bundle. -/
theorem extension_keeps_filters_of_truths :
    let added := (Bundle.default {}).extend
      [StandardCapability.boolean.toCapability, StandardCapability.double.toCapability]
    let name := Node.property .text (.plain "name")
    let active := Node.property .boolean (.plain "active")
    let t := conjunction (equality (operand (.str "it's")) (operand (.node name)))
      (equality (operand (.node active)) (operand (.node active)))
    let quoted := Node.literal .str (QuoteStyle.quote {} "it's")
    let v := Value.node ((name.comparison quoted).conjunction (active.comparison active))
    (t.build added).result = .ok v ∧ (t.buildUnified added).result = .ok v := by
  intro added name active t quoted v
  have fresh : ∀ c ∈ [StandardCapability.boolean.toCapability, StandardCapability.double.toCapability],
      c.type ∉ (Bundle.default {}).types := by
    simp [StandardCapability.toCapability, StandardCapability.type]
  obtain ⟨plain, unified⟩ := extension_keeps_filters (.default {})
    [StandardCapability.boolean.toCapability, StandardCapability.double.toCapability] t v
  exact ⟨plain rfl, unified rfl fresh⟩

end Blueprint

end FilterAlgebra
