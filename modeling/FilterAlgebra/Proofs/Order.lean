import FilterAlgebra.Proofs.Dispatch
import FilterAlgebra.Proofs.Defaults

/-!
# The order of registration

Capabilities are searched in the order of their registration. Where they serve distinct
types and no raw value is accepted twice, every search has at most one end, and the order
does not matter: operands are lifted alike (`Bundle.Rearranged.lift`), they meet at the same
type (`AdapterSet.meet_unique`), and what is refused is refused in the same words.
`Blueprint.order_irrelevant` is the main result: in both designs a blueprint has the same
run over a bundle and over every rearrangement of it.
-/

set_option autoImplicit false

namespace FilterAlgebra

/-- What a search finds does not depend on the order of a list in which no two members pass its
test. -/
theorem find?_perm_of_unique {α : Type} {members others : List α} {p : α → Bool}
    (perm : members.Perm others)
    (unique : ∀ a ∈ members, ∀ b ∈ members, p a = true → p b = true → a = b) :
    others.find? p = members.find? p := by
  have unique' : ∀ a ∈ others, ∀ b ∈ others, p a = true → p b = true → a = b := by
    intro a ha b hb
    exact unique a (perm.mem_iff.mpr ha) b (perm.mem_iff.mpr hb)
  apply Option.ext
  intro a
  rw [find?_eq_some_iff_of_unique unique, find?_eq_some_iff_of_unique unique', perm.mem_iff]

/-- A search for the first type at which two operands are joined ends with a run as soon as the joins
that come to nothing are passed over, if all others are that run. -/
theorem Search.combineFirst_eq_run {T : Type} {search : Search Traced Value T} {left right : Value}
    {sign : String} {types : List T} {run : Traced (Option Value)} (final : run.result ≠ .ok none)
    (decided : ∀ type ∈ types, search.combine left sign right type = pure none ∨
      search.combine left sign right type = run)
    (reached : ∃ type ∈ types, search.combine left sign right type = run) :
    search.combineFirst left sign right types = run := by
  have apart : run ≠ pure none := by
    rintro rfl
    exact final rfl
  induction types with
  | nil => simp at reached
  | cons type rest ih =>
    rw [combineFirst]
    cases decided type List.mem_cons_self with
    | inl hnone =>
      rw [hnone, pure_bind]
      apply ih
      · exact fun other hother => decided other (List.mem_cons_of_mem type hother)
      · obtain ⟨other, hmem, hrun⟩ := reached
        cases List.mem_cons.mp hmem with
        | inl hsame => exact absurd (hrun.symm.trans (hsame ▸ hnone)) apart
        | inr hrest => exact ⟨other, hrest, hrun⟩
    | inr hrun =>
      rw [hrun]
      apply Traced.ext
      · rw [Traced.records_bind]
        rcases hresult : run.result with failure | _ | joined
        · rfl
        · exact absurd hresult final
        · simp
      · rw [Traced.result_bind]
        rcases hresult : run.result with failure | _ | joined
        · rfl
        · exact absurd hresult final
        · rfl

/-- A search over types at which two operands are never joined comes to nothing. -/
theorem Search.combineFirst_eq_none {T : Type} {search : Search Traced Value T} {left right : Value}
    {sign : String} {types : List T}
    (apart : ∀ type ∈ types, search.combine left sign right type = pure none) :
    search.combineFirst left sign right types = pure none := by
  induction types with
  | nil => rfl
  | cons type rest ih =>
    rw [combineFirst, apart type List.mem_cons_self, pure_bind]
    exact ih fun other hother => apart other (List.mem_cons_of_mem type hother)

/-- A node that cannot be asked for its type has none. -/
theorem Value.exists_untyped {v : Value} (h : ¬v.Typed) : ∃ n, v = .node n ∧ n.type? = Option.none := by
  simpa [Typed] using h

/-- If the first operand is raw after nodes were moved to the front, both are. -/
theorem Value.raw_of_turned_raw {left right : Value} (h : (turned left right).1.isNode = false) :
    (turned left right).2.isNode = false := by
  unfold turned at h ⊢
  split
  · simp_all
  · simp_all

/-- A bundle and its capabilities in another order, where at most one capability serves a type and
at most one accepts a raw value. -/
structure Bundle.Rearranged (bundle other : Bundle) : Prop where
  perm : bundle.capabilities.Perm other.capabilities
  distinct : bundle.types.Nodup
  unambiguous : bundle.Unambiguous

namespace Bundle

variable {bundle other : Bundle} {v left right : Value} {type : SemanticType}

/-- For a raw value a rearranged bundle picks the same capability. -/
theorem Rearranged.pick? (h : bundle.Rearranged other) (raw : v.isNode = false)
    (type : SemanticType) : other.pick? v type = bundle.pick? v type := by
  unfold Bundle.pick?
  split
  · apply find?_perm_of_unique h.perm
    exact fun a ha b hb hav hbv => h.unambiguous.eq_of_accepts raw ha hb hav hbv
  · apply find?_perm_of_unique h.perm
    intro a ha b hb hat hbt
    exact eq_of_type_eq h.distinct ha hb ((of_decide_eq_true hat).trans (of_decide_eq_true hbt).symm)

/-- Operands are lifted alike over a bundle in any order. -/
theorem Rearranged.lift (h : bundle.Rearranged other) : other.lift = bundle.lift := by
  funext v type
  cases hv : v.isNode with
  | true =>
    obtain ⟨n, rfl⟩ := Value.eq_node_of_isNode hv
    rw [lift_node, lift_node]
  | false => rw [lift_raw other hv, lift_raw bundle hv, h.pick? hv]

/-- A rearranged bundle joins operands in the same way. -/
theorem Rearranged.operators (h : bundle.Rearranged other) : other.operators = bundle.operators := by
  unfold Bundle.operators Bundle.equate
  rw [h.lift]
  rfl

/-- A rearranged bundle has the same types within reach. -/
theorem Rearranged.mem_reachable_iff (h : bundle.Rearranged other) :
    type ∈ other.reachable ↔ type ∈ bundle.reachable := by
  simp only [reachable, types, List.mem_append, (h.perm.map _).mem_iff]

end Bundle

namespace AdapterSet

variable {bundle other : Bundle} {v left right : Value} {type : SemanticType} {sign : String}

/-- An operand finds the same adapter in a rearranged set. -/
theorem find?_rearranged (h : bundle.Rearranged other) (typed : v.Typed) (type : SemanticType) :
    (ofBundle other).find? v type = (ofBundle bundle).find? v type := by
  cases hv : v.isNode with
  | true =>
    obtain ⟨n, rfl⟩ := Value.eq_node_of_isNode hv
    obtain ⟨own, hown⟩ := Option.isSome_iff_exists.mp (typed n rfl)
    simp only [find?_ofBundle_node _ hown, h.mem_reachable_iff]
  | false =>
    rw [find?_ofBundle_raw _ hv, find?_ofBundle_raw _ hv, find?_perm_of_unique h.perm]
    intro a ha b hb hap hbp
    simp only [Bool.and_eq_true, decide_eq_true_eq] at hap hbp
    exact Bundle.eq_of_type_eq h.distinct ha hb (hap.1.trans hbp.1.symm)

/-- At every type within reach an operand is sent to the same adapter, or fails in the same way. -/
theorem resolve_rearranged (h : bundle.Rearranged other) (v : Value)
    (hreach : type ∈ bundle.reachable) :
    (ofBundle other).resolve v type = (ofBundle bundle).resolve v type := by
  by_cases typed : v.Typed
  · rw [resolve_eq_find? typed, resolve_eq_find? typed, find?_rearranged h typed]
  · obtain ⟨n, rfl, untyped⟩ := Value.exists_untyped typed
    rw [resolve_ofBundle_untyped untyped hreach,
      resolve_ofBundle_untyped untyped (h.mem_reachable_iff.mpr hreach)]

/-- At a type within reach a rearranged set joins operands in the same way. -/
theorem combine_rearranged (h : bundle.Rearranged other) (hreach : type ∈ bundle.reachable) :
    (ofBundle other).search.combine left sign right type =
      (ofBundle bundle).search.combine left sign right type := by
  simp only [search, Search.combineBy, resolve_rearranged h _ hreach]

/-- There is at most one type at which two operands meet, a raw one not before a node. -/
theorem meet_unique (unambiguous : bundle.Unambiguous) (typed : left.Typed)
    (order : left.isNode = false → right.isNode = false) {type type' : SemanticType}
    (h : (ofBundle bundle).meet left right type = true)
    (h' : (ofBundle bundle).meet left right type' = true) : type = type' := by
  simp only [meet, Bool.and_eq_true] at h h'
  cases hl : left.isNode with
  | true =>
    obtain ⟨n, rfl⟩ := Value.eq_node_of_isNode hl
    obtain ⟨own, hown⟩ := Option.isSome_iff_exists.mp (typed n rfl)
    rw [isSome_find?_node_iff hown] at h h'
    exact h.1.1.symm.trans h'.1.1
  | false =>
    rw [isSome_find?_raw_iff hl] at h h'
    obtain ⟨⟨c, hc, rfl, hcv⟩, -⟩ := h
    obtain ⟨⟨d, hd, rfl, hdv⟩, -⟩ := h'
    rw [unambiguous.eq_of_accepts hl hc hd hcv hdv]

/-- The joins of two operands, a raw one not before a node, come to nothing at all types within
reach but those where they are one and the same run. -/
theorem combine_decided (unambiguous : bundle.Unambiguous)
    (order : left.isNode = false → right.isNode = false) (sign : String) :
    ∃ run : Traced (Option Value), run.result ≠ .ok none ∧ ∀ type ∈ bundle.reachable,
      (ofBundle bundle).search.combine left sign right type = pure none ∨
        (ofBundle bundle).search.combine left sign right type = run := by
  by_cases typedLeft : left.Typed
  · by_cases typedRight : right.Typed
    · by_cases hmeet : ∃ type ∈ bundle.reachable, (ofBundle bundle).meet left right type = true
      · obtain ⟨type, -, htype⟩ := hmeet
        refine ⟨(ofBundle bundle).search.combine left sign right type,
          combine_ne_none typedLeft typedRight htype, fun other _ => ?_⟩
        cases hother : (ofBundle bundle).meet left right other with
        | false => exact .inl (combine_eq_none typedLeft typedRight hother)
        | true => exact .inr (by rw [meet_unique unambiguous typedLeft order hother htype])
      · refine ⟨Traced.fail (.fault .wrongOperands), by simp, fun other hother => .inl ?_⟩
        apply combine_eq_none typedLeft typedRight
        simpa using fun h => hmeet ⟨other, hother, h⟩
    · -- the left operand is looked at first, but only the right one can fail
      obtain ⟨n, rfl, untyped⟩ := Value.exists_untyped typedRight
      refine ⟨Traced.fail (.fault (.missingAttribute (Value.node n).holder "semantic_type")), by simp,
        fun other hother => .inr ?_⟩
      simp [search, Search.combineBy, resolve_eq_find? typedLeft,
        resolve_ofBundle_untyped untyped hother]
  · obtain ⟨n, rfl, untyped⟩ := Value.exists_untyped typedLeft
    refine ⟨Traced.fail (.fault (.missingAttribute (Value.node n).holder "semantic_type")), by simp,
      fun other hother => .inr ?_⟩
    simp [search, Search.combineBy, resolve_ofBundle_untyped untyped hother]

/-- The search for a common type ends in the same way in a rearranged set. -/
theorem combineFirst_rearranged (h : bundle.Rearranged other)
    (order : left.isNode = false → right.isNode = false) :
    (ofBundle other).search.combineFirst left sign right (ofBundle other).targetTypes =
      (ofBundle bundle).search.combineFirst left sign right (ofBundle bundle).targetTypes := by
  obtain ⟨run, final, decided⟩ := combine_decided h.unambiguous order sign
  have same : ∀ type ∈ (ofBundle other).targetTypes,
      (ofBundle other).search.combine left sign right type =
        (ofBundle bundle).search.combine left sign right type := by
    intro type hmem
    exact combine_rearranged h (h.mem_reachable_iff.mp (mem_targetTypes_ofBundle.mp hmem))
  have decidedHere : ∀ type ∈ (ofBundle bundle).targetTypes,
      (ofBundle bundle).search.combine left sign right type = pure none ∨
        (ofBundle bundle).search.combine left sign right type = run := by
    intro type hmem
    exact decided type (mem_targetTypes_ofBundle.mp hmem)
  have members {type : SemanticType} :
      type ∈ (ofBundle other).targetTypes ↔ type ∈ (ofBundle bundle).targetTypes := by
    rw [mem_targetTypes_ofBundle, mem_targetTypes_ofBundle, h.mem_reachable_iff]
  have decidedThere : ∀ type ∈ (ofBundle other).targetTypes,
      (ofBundle other).search.combine left sign right type = pure none ∨
        (ofBundle other).search.combine left sign right type = run := by
    intro type hmem
    rw [same type hmem]
    exact decidedHere type (members.mp hmem)
  by_cases reached : ∃ type ∈ (ofBundle bundle).targetTypes,
      (ofBundle bundle).search.combine left sign right type = run
  · obtain ⟨type, hmem, hrun⟩ := reached
    rw [Search.combineFirst_eq_run final decidedHere ⟨type, hmem, hrun⟩]
    have hthere := members.mpr hmem
    exact Search.combineFirst_eq_run final decidedThere
      ⟨type, hthere, (same type hthere).trans hrun⟩
  · have apart : ∀ type ∈ (ofBundle bundle).targetTypes,
        (ofBundle bundle).search.combine left sign right type = pure none := by
      intro type hmem
      exact (decidedHere type hmem).resolve_right fun hrun => reached ⟨type, hmem, hrun⟩
    rw [Search.combineFirst_eq_none apart, Search.combineFirst_eq_none]
    intro type hmem
    rw [same type hmem]
    exact apart type (members.mp hmem)

/-- The adapters of a rearranged bundle join operands in the same way. -/
theorem operators_rearranged (h : bundle.Rearranged other) :
    (ofBundle other).operators = (ofBundle bundle).operators := by
  have equate (left right : Value) :
      (ofBundle other).equate left right = (ofBundle bundle).equate left right := by
    simp only [AdapterSet.equate, Search.equate, Search.nodeFirst_values, search_targets, pure_bind]
    rw [combineFirst_rearranged h Value.raw_of_turned_raw]
  have conjoin (left right : Value) :
      (ofBundle other).conjoin left right = (ofBundle bundle).conjoin left right := by
    have hreach : SemanticType.bool ∈ bundle.reachable := by simp [Bundle.reachable]
    simp only [AdapterSet.conjoin, Search.conjoin, Search.blame, search_truth, search_reaches,
      pure_bind, combine_rearranged h hreach, resolve_rearranged h _ hreach]
  unfold AdapterSet.operators
  rw [show (ofBundle other).equate = (ofBundle bundle).equate from funext₂ equate,
    show (ofBundle other).conjoin = (ofBundle bundle).conjoin from funext₂ conjoin]

end AdapterSet

namespace Blueprint

/-- **The order of registration is irrelevant** for capabilities of distinct types of which no two
accept the same raw value: in both designs a blueprint has one and the same run over them, with one
result or one failure. -/
theorem order_irrelevant (bundle other : Bundle) (perm : bundle.capabilities.Perm other.capabilities)
    (distinct : bundle.types.Nodup) (unambiguous : bundle.Unambiguous) (t : Blueprint) :
    t.build other = t.build bundle ∧ t.buildUnified other = t.buildUnified bundle := by
  have rearranged : bundle.Rearranged other := ⟨perm, distinct, unambiguous⟩
  constructor
  · rw [build_eq, build_eq, rearranged.operators, Bundle.opening, Bundle.opening, perm.length_eq]
  · have length : (AdapterSet.ofBundle other).adapters.length =
        (AdapterSet.ofBundle bundle).adapters.length := by
      simp [AdapterSet.ofBundle, List.length_flatMap, perm.length_eq]
    rw [buildUnified_eq, buildUnified_eq, AdapterSet.operators_rearranged rearranged,
      AdapterSet.opening, AdapterSet.opening, length]

/-- Texts before integers: a text is compared with a property on its right, and with another text. -/
theorem order_irrelevant_of_texts_first :
    let swapped : Bundle :=
      ⟨[(StandardCapability.text {}).toCapability, StandardCapability.integer.toCapability]⟩
    let name := Node.property .text (.plain "name")
    let quoted := Node.literal .str (QuoteStyle.quote {} "it's")
    let t := conjunction (equality (operand (.str "it's")) (operand (.node name)))
      (equality (operand (.str "it's")) (operand (.text (.tag .q))))
    let v := Value.node ((name.comparison quoted).conjunction (quoted.comparison quoted))
    (t.build swapped).result = .ok v ∧ (t.buildUnified swapped).result = .ok v := by
  intro swapped name quoted t v
  have perm : (Bundle.default {}).capabilities.Perm swapped.capabilities := .swap _ _ _
  obtain ⟨plain, unified⟩ := order_irrelevant (.default {}) swapped perm
    (Bundle.distinct_default {}) (Bundle.unambiguous_default {}) t
  rw [plain, unified]
  exact ⟨rfl, rfl⟩

end Blueprint

end FilterAlgebra
