import FilterAlgebra.Proofs.Agreement
import FilterAlgebra.Blueprint

/-!
# The two sides of a comparison

On which side of a comparison an operand is written decides about the order in the result
and about nothing else. Through adapters both orders are compared at the first type at
which both operands find an adapter (`AdapterSet.FirstCommon`), and that type does not
depend on the order. A node is always written before a raw operand, so there the two
orders are one and the same run, over adapters as well as over a bundle.
`Value.compared_either_way` is the main result.
-/

set_option autoImplicit false

namespace FilterAlgebra

/-- The comparison of the nodes that two operands have become: in the order of the operands, but a
node before what was raw. -/
def Value.arranged (left right : Value) (l r : Node) : Node :=
  if !left.isNode && right.isNode then r.comparison l else l.comparison r

/-- Of two nodes, or of two raw operands, the first one stays on the left. -/
theorem Value.arranged_of_same {left right : Value} (same : left.isNode = right.isNode) (l r : Node) :
    left.arranged right l r = l.comparison r := by
  simp [arranged, same]

namespace AdapterSet

variable {set : AdapterSet} {v left right w : Value} {type : SemanticType} {n : Node}

/-- An operand finds an adapter at a type. -/
def Resolves (set : AdapterSet) (v : Value) (type : SemanticType) : Prop :=
  ∃ a, (set.resolve v type).result = .ok (some a)

/-- The adapter that an operand finds at a type turns it into a node. -/
def Becomes (set : AdapterSet) (v : Value) (type : SemanticType) (n : Node) : Prop :=
  ∃ a, (set.resolve v type).result = .ok (some a) ∧ (a.toExpression v).result = .ok (.node n)

/-- The first type within reach at which both of two operands find an adapter. -/
def FirstCommon (set : AdapterSet) (left right : Value) (type : SemanticType) : Prop :=
  (set.Resolves left type ∧ set.Resolves right type) ∧
    ∃ before after, set.targetTypes = before ++ type :: after ∧
      ∀ other ∈ before, ¬(set.Resolves left other ∧ set.Resolves right other)

/-- The first common type is the same in either order. -/
theorem FirstCommon.swap (h : set.FirstCommon left right type) : set.FirstCommon right left type := by
  obtain ⟨here, before, after, hsplit, apart⟩ := h
  exact ⟨here.symm, before, after, hsplit, fun other hmem hboth => apart other hmem hboth.symm⟩

/-- An operand is resolved to the adapter that is found first for it. -/
theorem resolve_eq_some_iff {a : Adapter} :
    (set.resolve v type).result = .ok (some a) ↔ set.find? v type = some a := by
  by_cases typed : v.Typed
  · simp [resolve_eq_find? typed]
  · -- a node without a type finds no adapter, whether or not one is asked for it
    constructor
    · intro h
      exact absurd (Adapter.typed_of_fits (fits_of_resolve h).2.2) typed
    · intro h
      exact absurd (Adapter.typed_of_fits (mem_of_find? h).2.2) typed

/-- An operand resolves to a type exactly if there is an adapter for it. -/
theorem resolves_iff : set.Resolves v type ↔ (set.find? v type).isSome = true := by
  simp only [Resolves, resolve_eq_some_iff, Option.isSome_iff_exists]

/-- What an operand becomes is what the adapters bring it to. -/
theorem becomes_iff : set.Becomes v type n ↔ set.Brings v type n := by
  simp only [Becomes, Brings, resolve_eq_some_iff]
  constructor
  · rintro ⟨a, ha, h⟩
    obtain ⟨m, hgives, hm⟩ := (Adapter.toExpression_eq_ok_iff (mem_of_find? ha).2.2).mp h
    cases hm
    exact ⟨a, ha, hgives⟩
  · rintro ⟨a, ha, hgives⟩
    exact ⟨a, ha, (Adapter.toExpression_eq_ok_iff (mem_of_find? ha).2.2).mpr ⟨n, hgives, rfl⟩⟩

/-- A node becomes nothing but itself. -/
theorem Becomes.eq_of_node {m : Node} (h : set.Becomes (.node n) type m) : m = n := by
  obtain ⟨a, ha, hgives⟩ := becomes_iff.mp h
  cases a with
  | raw c =>
    have hfits := (mem_of_find? ha).2.2
    simp [Adapter.fits] at hfits
  | identity _ => exact (Value.node.inj hgives).symm

/-- The first common type is the first one at which the operands meet. -/
theorem firstCommon_iff :
    set.FirstCommon left right type ↔ set.targetTypes.find? (set.meet left right) = some type := by
  have meets (other : SemanticType) :
      set.meet left right other = true ↔ set.Resolves left other ∧ set.Resolves right other := by
    simp [meet, resolves_iff]
  rw [List.find?_eq_some_iff_append]
  simp only [FirstCommon, ← meets, Bool.not_eq_true, Bool.not_eq_eq_eq_not, Bool.not_true]

/-- Operands are compared at the first type at which both find an adapter, if the two adapters that
they find there convert them. -/
theorem equate_eq_ok_iff_firstCommon :
    (set.equate left right).result = .ok w ↔
      ∃ type l r, set.FirstCommon left right type ∧ set.Becomes left type l ∧
        set.Becomes right type r ∧ w = .node (Value.arranged left right l r) := by
  simp only [equate_eq_ok_iff, ← firstCommon_iff, ← becomes_iff, Value.turned, Value.arranged]
  -- turned operands change places in the description of the run as well as in the result
  by_cases turn : (!left.isNode && right.isNode) = true
  · simp only [turn, if_true]
    constructor
    · rintro ⟨type, l, r, first, hl, hr, rfl⟩
      exact ⟨type, r, l, first.swap, hr, hl, rfl⟩
    · rintro ⟨type, l, r, first, hl, hr, rfl⟩
      exact ⟨type, r, l, first.swap, hr, hl, rfl⟩
  · simp only [turn]
    rfl

/-- Operands that are compared in one order are compared in the other as well. -/
theorem equate_swap (h : (set.equate left right).result = .ok w) :
    ∃ w', (set.equate right left).result = .ok w' := by
  obtain ⟨type, l, r, first, hl, hr, -⟩ := equate_eq_ok_iff_firstCommon.mp h
  exact ⟨_, equate_eq_ok_iff_firstCommon.mpr ⟨type, r, l, first.swap, hr, hl, rfl⟩⟩

/-- A node and a raw operand are compared by one run in both orders. -/
theorem equate_comm_of_mixed (set : AdapterSet) (mixed : left.isNode ≠ right.isNode) :
    set.equate right left = set.equate left right := by
  have turned : Value.turned right left = Value.turned left right := by
    cases hl : left.isNode <;> cases hr : right.isNode <;> simp_all [Value.turned]
  simp only [equate, Search.equate, Search.nodeFirst_values, turned]

end AdapterSet

/-- Over a bundle, too, a node and a raw operand are compared by one run in both orders. -/
theorem Bundle.equate_comm_of_mixed (bundle : Bundle) {left right : Value}
    (mixed : left.isNode ≠ right.isNode) : bundle.equate right left = bundle.equate left right := by
  cases hl : left.isNode with
  | true =>
    obtain ⟨n, rfl⟩ := Value.eq_node_of_isNode hl
    have hr : right.isNode = false := by simpa [hl] using mixed.symm
    rw [equate_raw_node bundle n hr, equate_node_raw bundle n hr]
  | false =>
    have hr : right.isNode = true := by simpa [hl] using mixed.symm
    obtain ⟨n, rfl⟩ := Value.eq_node_of_isNode hr
    rw [equate_raw_node bundle n hl, equate_node_raw bundle n hl]

namespace Value

/-- **Operands are compared in either order or in none.** Through any adapters both orders are
compared at one type, the first at which both operands find an adapter, and of the same two nodes: two
nodes or two raw operands in the order in which they are written, a node and a raw operand by one and
the same run, which writes the node first. Over a bundle a node and a raw operand are compared by one
run as well. -/
theorem compared_either_way (left right : Value) :
    (∀ set : AdapterSet,
      ((∃ w, (set.equate left right).result = .ok w) ↔
        ∃ w, (set.equate right left).result = .ok w) ∧
      ∀ w, (set.equate left right).result = .ok w →
        ∃ type l r, set.FirstCommon left right type ∧ set.FirstCommon right left type ∧
          set.Becomes left type l ∧ set.Becomes right type r ∧
          l.type? = some type ∧ r.type? = some type ∧
          if left.isNode = right.isNode then
            w = .node (l.comparison r) ∧
              (set.equate right left).result = .ok (.node (r.comparison l))
          else
            set.equate right left = set.equate left right ∧
              (left = .node l ∧ w = .node (l.comparison r) ∨
                right = .node r ∧ w = .node (r.comparison l))) ∧
    ∀ bundle : Bundle, left.isNode ≠ right.isNode →
      bundle.equate right left = bundle.equate left right := by
  refine ⟨fun set => ⟨⟨?_, ?_⟩, ?_⟩, fun bundle mixed => bundle.equate_comm_of_mixed mixed⟩
  · rintro ⟨w, h⟩
    exact AdapterSet.equate_swap h
  · rintro ⟨w, h⟩
    exact AdapterSet.equate_swap h
  · intro w h
    obtain ⟨type, l, r, first, hl, hr, rfl⟩ := AdapterSet.equate_eq_ok_iff_firstCommon.mp h
    refine ⟨type, l, r, first, first.swap, hl, hr, (AdapterSet.becomes_iff.mp hl).type?,
      (AdapterSet.becomes_iff.mp hr).type?, ?_⟩
    split
    · rename_i same
      refine ⟨by rw [arranged_of_same same], ?_⟩
      rw [← arranged_of_same same.symm]
      exact AdapterSet.equate_eq_ok_iff_firstCommon.mpr ⟨type, r, l, first.swap, hr, hl, rfl⟩
    · rename_i mixed
      refine ⟨set.equate_comm_of_mixed mixed, ?_⟩
      cases hnode : left.isNode with
      | true =>
        obtain ⟨n, rfl⟩ := eq_node_of_isNode hnode
        obtain rfl := hl.eq_of_node
        exact .inl ⟨rfl, by simp [arranged]⟩
      | false =>
        have hright : right.isNode = true := by simpa [hnode] using Ne.symm mixed
        obtain ⟨n, rfl⟩ := eq_node_of_isNode hright
        obtain rfl := hr.eq_of_node
        exact .inr ⟨rfl, by simp [arranged, hnode]⟩

/-- A short and a long text, written by different capabilities, and a long text on the left of a
property. -/
theorem compared_either_way_of_texts :
    let set := AdapterSet.ofBundle (.ofStandard [.shortText { mark := .double }, .text {}])
    let name := Node.property .text (.plain "name")
    let short := Node.literal .str "\"ok\""
    let long := Node.literal .str "'fine'"
    (set.equate (.str "ok") (.str "fine")).result = .ok (.node (short.comparison long)) ∧
      (set.equate (.str "fine") (.str "ok")).result = .ok (.node (long.comparison short)) ∧
      (set.equate (.str "fine") (.node name)).result = .ok (.node (name.comparison long)) ∧
      set.equate (.node name) (.str "fine") = set.equate (.str "fine") (.node name) := by
  intro set name short long
  have raws : (set.equate (.str "ok") (.str "fine")).result =
      .ok (.node (short.comparison long)) := rfl
  have mixed : (set.equate (.str "fine") (.node name)).result =
      .ok (.node (name.comparison long)) := rfl
  obtain ⟨_, l, r, -, -, -, -, -, -, hraws⟩ :=
    ((compared_either_way (.str "ok") (.str "fine")).1 set).2 _ raws
  obtain ⟨_, _, _, -, -, -, -, -, -, hmixed⟩ :=
    ((compared_either_way (.str "fine") (.node name)).1 set).2 _ mixed
  rw [if_pos (show (str "ok").isNode = (str "fine").isNode from rfl)] at hraws
  rw [if_neg (show (str "fine").isNode ≠ (node name).isNode by simp [isNode])] at hmixed
  obtain ⟨hwritten, hback⟩ := hraws
  have hnodes : l = short ∧ r = long := by
    simpa [Node.comparison, eq_comm] using hwritten
  refine ⟨raws, ?_, mixed, hmixed.1⟩
  rwa [hnodes.1, hnodes.2] at hback

end Value

end FilterAlgebra
