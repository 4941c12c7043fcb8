import FilterAlgebra.Proofs.Conversions

/-!
# How operands reach types through adapters

An operand reaches a type through the first adapter that leads there and has its shape.
For operands that can be asked for their type this is a search in a list (`find?`), and
a comparison is made at the first type at which the search succeeds for both operands.
`AdapterSet.equate_eq_ok_iff` and `AdapterSet.conjoin_eq_ok_iff` say so for every set of
adapters and all operands.
-/

set_option autoImplicit false

namespace FilterAlgebra

namespace Adapter

variable {a : Adapter} {v w : Value} {n : Node}

/-- Whether an operand has the shape of an adapter. A node without a type has none. -/
def fits : Adapter → Value → Bool
  | raw c, v => !v.isNode && c.accepts v
  | identity type, .node n => n.type? = some type
  | identity _, _ => false

/-- An adapter turns an operand of its shape into a node. -/
def Gives : Adapter → Value → Node → Prop
  | raw c, v, n => ∃ text, c.Writes v text ∧ n = .literal c.type text
  | identity _, v, n => v = .node n

/-- A raw adapter leads to the type of its capability. -/
@[simp] theorem target_raw (c : Capability) : (raw c).target = c.type := rfl

/-- An identity adapter leads to the type it is made for. -/
@[simp] theorem target_identity (type : SemanticType) : (identity type).target = type := rfl

/-- An adapter that says it accepts an operand fits it. -/
theorem fits_of_accepts (h : a.accepts v = .ok true) : a.fits v = true := by
  cases a with
  | raw c => simpa [accepts, fits] using h
  | identity type =>
    cases hv : v.isNode with
    | false => simp [accepts, hv] at h
    | true =>
      obtain ⟨n, rfl⟩ := Value.eq_node_of_isNode hv
      cases hsem : (Value.node n).semanticType with
      | error f => simp [accepts, hsem, Bind.bind, Except.bind] at h
      | ok actual =>
        simp only [accepts, Value.isNode_node, if_true, hsem, Bind.bind, Except.bind, pure,
          Except.pure, Except.ok.injEq, decide_eq_true_eq] at h
        subst h
        simpa [fits] using Value.semanticType_node_eq_ok.mp hsem

/-- What an adapter makes of an operand that fits it is the node it gives for it. -/
theorem toExpression_eq_ok_iff (h : a.fits v = true) :
    (a.toExpression v).result = .ok w ↔ ∃ n, a.Gives v n ∧ w = .node n := by
  cases a with
  | raw c =>
    simp only [toExpression, Gives, Traced.result_map_eq_ok, Capability.asExpression_eq_ok_iff]
    constructor
    · rintro ⟨n, hn, rfl⟩
      exact ⟨n, hn, rfl⟩
    · rintro ⟨n, hn, rfl⟩
      exact ⟨n, hn, rfl⟩
  | identity type =>
    cases hv : v.isNode with
    | false => cases v <;> simp_all [fits]
    | true =>
      obtain ⟨n, rfl⟩ := Value.eq_node_of_isNode hv
      simp [toExpression, Gives, eq_comm]

/-- What an adapter gives is of the type it leads to. -/
theorem type?_of_gives (hfits : a.fits v = true) (h : a.Gives v n) : n.type? = some a.target := by
  cases a with
  | raw c =>
    obtain ⟨text, -, rfl⟩ := h
    rfl
  | identity type =>
    obtain rfl : v = .node n := h
    simpa [fits] using hfits

end Adapter

/-- An operand that can be asked for its type, if it is a node at all. -/
def Value.Typed (v : Value) : Prop :=
  ∀ n, v = .node n → n.type?.isSome = true

/-- Raw values are never asked for a type. -/
theorem Value.typed_of_raw {v : Value} (raw : v.isNode = false) : v.Typed := by
  rintro n rfl
  simp at raw

/-- An adapter is asked without a fault as long as nodes have types, and says whether it fits. -/
theorem Adapter.accepts_eq_fits {v : Value} (typed : v.Typed) (a : Adapter) :
    a.accepts v = .ok (a.fits v) := by
  cases a with
  | raw c => rfl
  | identity type =>
    cases hv : v.isNode with
    | false => cases v <;> simp_all [accepts, fits]
    | true =>
      obtain ⟨n, rfl⟩ := Value.eq_node_of_isNode hv
      obtain ⟨actual, hactual⟩ := Option.isSome_iff_exists.mp (typed n rfl)
      simp [accepts, fits, Value.semanticType_node_eq_ok.mpr hactual, hactual, Bind.bind, Except.bind,
        pure, Except.pure]

/-- What fits an adapter is raw, or a node with the type of the adapter. -/
theorem Adapter.typed_of_fits {a : Adapter} {v : Value} (h : a.fits v = true) : v.Typed := by
  cases a with
  | raw c => exact Value.typed_of_raw (by simp_all [fits])
  | identity type =>
    rintro n rfl
    simp_all [fits]

/-- The order in which the operands of a comparison are taken is that of `Value.turned`. -/
@[simp] theorem Search.nodeFirst_values (left right : Value) :
    Search.nodeFirst Operands.values left right = pure (Value.turned left right) := by
  simp [Search.nodeFirst, Value.turned]

/-- The first type of a list at which two operands are joined is the first at which they meet. -/
theorem Search.combineFirst_eq_ok_iff {T : Type} {search : Search Traced Value T}
    {left right w : Value} {sign : String} {types : List T} (meet : T → Bool)
    (apart : ∀ type, meet type = false → search.combine left sign right type = pure none)
    (joined : ∀ type, meet type = true → (search.combine left sign right type).result ≠ .ok none) :
    (search.combineFirst left sign right types).result = .ok (some w) ↔
      ∃ type, types.find? meet = some type ∧
        (search.combine left sign right type).result = .ok (some w) := by
  induction types with
  | nil => simp [combineFirst]
  | cons type rest ih =>
    cases h : meet type with
    | false => simpa [combineFirst, apart type h, h] using ih
    | true =>
      simp only [combineFirst, Traced.result_bind_eq_ok, List.find?_cons_of_pos h, Option.some.injEq,
        exists_eq_left']
      constructor
      · rintro ⟨found, hfound, hw⟩
        cases found with
        | none => exact absurd hfound (joined type h)
        | some v =>
          obtain rfl : v = w := by simpa using hw
          exact hfound
      · intro hw
        exact ⟨some w, hw, by simp⟩

namespace AdapterSet

variable {set : AdapterSet} {v left right w : Value} {sign : String} {type : SemanticType}
  {n m : Node}

/-- The adapter through which an operand reaches a type. -/
def find? (set : AdapterSet) (v : Value) (type : SemanticType) : Option Adapter :=
  set.adapters.find? fun a => a.target = type && a.fits v

/-- An operand becomes a node of a type through the adapters of a set. -/
def Brings (set : AdapterSet) (v : Value) (type : SemanticType) (n : Node) : Prop :=
  ∃ a, set.find? v type = some a ∧ a.Gives v n

/-- Whether two operands reach a type. -/
def meet (set : AdapterSet) (left right : Value) (type : SemanticType) : Bool :=
  (set.find? left type).isSome && (set.find? right type).isSome

/-- An adapter that was found is one of the set, leads to the type and fits the operand. -/
theorem mem_of_find? {a : Adapter} (h : set.find? v type = some a) :
    a ∈ set.adapters ∧ a.target = type ∧ a.fits v = true := by
  refine ⟨List.mem_of_find?_eq_some h, ?_⟩
  simpa using List.find?_some h

/-- What adapters bring to a type is of that type. -/
theorem Brings.type? (h : set.Brings v type n) : n.type? = some type := by
  obtain ⟨a, ha, hgives⟩ := h
  obtain ⟨-, rfl, hfits⟩ := mem_of_find? ha
  exact Adapter.type?_of_gives hfits hgives

/-- Only operands that can be asked for their types are brought anywhere. -/
theorem Brings.typed (h : set.Brings v type n) : v.Typed := by
  obtain ⟨a, ha, -⟩ := h
  exact Adapter.typed_of_fits (mem_of_find? ha).2.2

/-- What is brought to a type has an adapter for it. -/
theorem Brings.isSome (h : set.Brings v type n) : (set.find? v type).isSome = true := by
  obtain ⟨a, ha, -⟩ := h
  simp [ha]

/-- To resolve an operand is to find the first fitting adapter, without records or faults. -/
theorem resolve_eq_find? (typed : v.Typed) (set : AdapterSet) (type : SemanticType) :
    set.resolve v type = pure (set.find? v type) := by
  unfold resolve find?
  induction set.adapters with
  | nil => rfl
  | cons a rest ih =>
    by_cases ht : a.target = type <;>
      cases hf : a.fits v <;>
        simp [Search.firstAccepting, Adapter.accepts_eq_fits typed, ht, hf, ih]

/-- A search that succeeds has asked an adapter of which the operand has the shape. -/
theorem fits_of_resolve {a : Adapter} (h : (set.resolve v type).result = .ok (some a)) :
    a ∈ set.adapters ∧ a.target = type ∧ a.fits v = true := by
  obtain ⟨adapters⟩ := set
  induction adapters with
  | nil => simp [resolve, Search.firstAccepting] at h
  | cons b rest ih =>
    simp only [resolve, Search.firstAccepting, pure_bind] at h
    split at h
    · rename_i ht
      obtain ⟨accepted, haccepted, h⟩ := Traced.result_bind_eq_ok.mp h
      rw [Traced.result_ofFault_eq_ok] at haccepted
      cases accepted with
      | false =>
        obtain ⟨hmem, hrest⟩ := ih (by simpa [resolve] using h)
        exact ⟨List.mem_cons_of_mem b hmem, hrest⟩
      | true =>
        obtain rfl : b = a := by simpa using h
        exact ⟨List.mem_cons_self, ht, Adapter.fits_of_accepts haccepted⟩
    · obtain ⟨hmem, hrest⟩ := ih h
      exact ⟨List.mem_cons_of_mem b hmem, hrest⟩

/-- Two operands are joined at a type exactly if both become nodes of it. -/
theorem combine_eq_ok_iff (typedLeft : left.Typed) (typedRight : right.Typed) :
    (set.search.combine left sign right type).result = .ok (some w) ↔
      ∃ l r, set.Brings left type l ∧ set.Brings right type r ∧
        w = .node (.binary (.node l) sign (.node r) .bool) := by
  simp only [search, Search.combineBy, resolve_eq_find? typedLeft, resolve_eq_find? typedRight,
    pure_bind, Brings]
  cases hl : set.find? left type with
  | none => simp
  | some a =>
    cases hr : set.find? right type with
    | none => simp
    | some b =>
      simp only [Traced.result_bind_eq_ok, Traced.result_map_eq_ok, Operands.values_join,
        Traced.result_pure, Except.ok.injEq, Option.some.injEq, exists_eq_left',
        Adapter.toExpression_eq_ok_iff (mem_of_find? hl).2.2,
        Adapter.toExpression_eq_ok_iff (mem_of_find? hr).2.2]
      constructor
      · rintro ⟨_, ⟨l, hl, rfl⟩, _, ⟨r, hr, rfl⟩, h⟩
        obtain rfl : Value.node (.binary (.node l) sign (.node r) .bool) = w := by simpa using h
        exact ⟨l, r, hl, hr, rfl⟩
      · rintro ⟨l, r, hl, hr, rfl⟩
        exact ⟨_, ⟨l, hl, rfl⟩, _, ⟨r, hr, rfl⟩, by simp⟩

/-- Operands without a common adapter at a type are not joined there. -/
theorem combine_eq_none (typedLeft : left.Typed) (typedRight : right.Typed)
    (h : set.meet left right type = false) :
    set.search.combine left sign right type = pure none := by
  simp only [search, Search.combineBy, resolve_eq_find? typedLeft, resolve_eq_find? typedRight,
    pure_bind]
  cases hl : set.find? left type <;> cases hr : set.find? right type <;> simp_all [meet]

/-- Operands that meet at a type are joined there, or their conversion fails; no other type is tried. -/
theorem combine_ne_none (typedLeft : left.Typed) (typedRight : right.Typed)
    (h : set.meet left right type = true) :
    (set.search.combine left sign right type).result ≠ .ok none := by
  simp only [search, Search.combineBy, resolve_eq_find? typedLeft, resolve_eq_find? typedRight,
    pure_bind]
  cases hl : set.find? left type <;> cases hr : set.find? right type <;>
    simp_all [meet, Traced.result_bind_eq_ok, Traced.result_map_eq_ok]

/-- Only operands that can be asked for their type are ever joined. -/
theorem typed_of_combine (h : (set.search.combine left sign right type).result = .ok (some w)) :
    left.Typed ∧ right.Typed := by
  simp only [search, Search.combineBy, Traced.result_bind_eq_ok] at h
  obtain ⟨a, ha, b, hb, h⟩ := h
  cases a with
  | none => simp at h
  | some a =>
    cases b with
    | none => simp at h
    | some b =>
      exact ⟨Adapter.typed_of_fits (fits_of_resolve ha).2.2,
        Adapter.typed_of_fits (fits_of_resolve hb).2.2⟩

/-- A search that ends with a join has asked both operands for their types. -/
theorem typed_of_combineFirst {types : List SemanticType}
    (h : (set.search.combineFirst left sign right types).result = .ok (some w)) :
    left.Typed ∧ right.Typed := by
  induction types with
  | nil => simp [Search.combineFirst] at h
  | cons type rest ih =>
    simp only [Search.combineFirst, Traced.result_bind_eq_ok] at h
    obtain ⟨found, hfound, h⟩ := h
    cases found with
    | none => exact ih h
    | some v => exact typed_of_combine hfound

/-- A comparison that finds no common type fails. -/
theorem result_refuseComparison :
    (Search.refuseComparison Operands.values left right).result ≠ .ok w := by
  intro h
  simp only [Search.refuseComparison, Operands.values_look, Operands.values_check,
    Operands.values_run, Operands.values_className, Operands.values_refuse, pure_bind,
    Traced.result_bind_eq_ok, Traced.result_fail] at h
  obtain ⟨_, -, _, -, _, -, h⟩ := h
  cases h

/-- A comparison has a result exactly if the search over the types finds one. -/
theorem equate_eq_ok_iff_combineFirst :
    (set.equate left right).result = .ok w ↔
      (set.search.combineFirst (Value.turned left right).1 equalitySign (Value.turned left right).2
        set.targetTypes).result = .ok (some w) := by
  simp only [equate, Search.equate, Search.nodeFirst_values, pure_bind,
    show set.search.targets = pure set.targetTypes from rfl, Traced.result_bind_eq_ok]
  constructor
  · rintro ⟨found, hfound, h⟩
    cases found with
    | none => exact absurd h result_refuseComparison
    | some v =>
      obtain rfl : v = w := by simpa using h
      exact hfound
  · intro h
    exact ⟨some w, h, by simp⟩

/-- Two operands are compared at the first type that both reach. -/
theorem equate_eq_ok_iff :
    (set.equate left right).result = .ok w ↔
      ∃ type l r,
        set.targetTypes.find? (set.meet (Value.turned left right).1 (Value.turned left right).2) =
          some type ∧
        set.Brings (Value.turned left right).1 type l ∧
        set.Brings (Value.turned left right).2 type r ∧ w = .node (Node.comparison l r) := by
  rw [equate_eq_ok_iff_combineFirst]
  generalize Value.turned left right = turned
  obtain ⟨first, second⟩ := turned
  constructor
  · intro h
    obtain ⟨typedFirst, typedSecond⟩ := typed_of_combineFirst h
    obtain ⟨type, hfind, hcombine⟩ := (Search.combineFirst_eq_ok_iff (set.meet first second)
      (fun _ => combine_eq_none typedFirst typedSecond)
      (fun _ => combine_ne_none typedFirst typedSecond)).mp h
    obtain ⟨l, r, hl, hr, rfl⟩ := (combine_eq_ok_iff typedFirst typedSecond).mp hcombine
    exact ⟨type, l, r, hfind, hl, hr, rfl⟩
  · rintro ⟨type, l, r, hfind, hl, hr, rfl⟩
    refine (Search.combineFirst_eq_ok_iff (set.meet first second)
      (fun _ => combine_eq_none hl.typed hr.typed)
      (fun _ => combine_ne_none hl.typed hr.typed)).mpr ⟨type, hfind, ?_⟩
    exact (combine_eq_ok_iff hl.typed hr.typed).mpr ⟨l, r, hl, hr, rfl⟩

/-- A conjunction has a result exactly if both operands can be joined at the truth type. -/
theorem conjoin_eq_ok_iff_combine :
    (set.conjoin left right).result = .ok w ↔
      (set.search.combine left conjunctionSign right .bool).result = .ok (some w) := by
  simp only [conjoin, Search.conjoin, show set.search.truth = pure .bool from rfl, pure_bind]
  rw [Traced.result_bind_eq_ok]
  constructor
  · rintro ⟨found, hfound, h⟩
    cases found with
    | none =>
      obtain ⟨bad, -, h⟩ := Traced.result_bind_eq_ok.mp h
      simp at h
    | some v =>
      obtain rfl : v = w := by simpa using h
      exact hfound
  · intro h
    exact ⟨some w, h, by simp⟩

/-- Two operands are joined as filters exactly if both reach the truth type. -/
theorem conjoin_eq_ok_iff :
    (set.conjoin left right).result = .ok w ↔
      ∃ l r, set.Brings left .bool l ∧ set.Brings right .bool r ∧
        w = .node (Node.conjunction l r) := by
  rw [conjoin_eq_ok_iff_combine]
  constructor
  · intro h
    obtain ⟨typedLeft, typedRight⟩ := typed_of_combine h
    exact (combine_eq_ok_iff typedLeft typedRight).mp h
  · rintro ⟨l, r, hl, hr, rfl⟩
    exact (combine_eq_ok_iff hl.typed hr.typed).mpr ⟨l, r, hl, hr, rfl⟩

end AdapterSet

end FilterAlgebra
