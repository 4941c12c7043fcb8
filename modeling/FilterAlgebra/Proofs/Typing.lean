import FilterAlgebra.Proofs.Evaluation

/-!
# Well-typed blueprints

A blueprint can be judged before it is built. `Blueprint.HasType` is the judgement: a
node has its own type, integers and texts have theirs, and a comparison needs two sides
of one type. `Blueprint.elaborate` says which filter a blueprint stands for.
`Blueprint.builds_iff` is the main result: over the default bundle exactly the
well-typed blueprints are built, in both designs, and to what they stand for.
-/

set_option autoImplicit false

namespace FilterAlgebra

/-- The type of an operand. A raw value has one only if it is an integer or a text. -/
inductive Value.HasType : Value → SemanticType → Prop
  | node {n : Node} {type : SemanticType} (h : n.type? = some type) : HasType (.node n) type
  | integer {v : Value} {k : Int} (h : v.integer? = some k) : HasType v .int
  | text {v : Value} {s : String} (h : v.text? = some s) : HasType v .str

/-- An integer is written with at most as many digits as numerals may have. -/
def Value.WithinDigits (v : Value) : Prop :=
  ∀ k, v.integer? = some k → (Nat.toDigits 10 k.natAbs).length ≤ Numeral.maxDigits

/-- What an operand stands for in a filter: integers and texts for literals, anything else for
itself. -/
def Value.elaborate (style : QuoteStyle) (v : Value) : Value :=
  match v.integer?, v.text? with
  | some k, _ => .node (.literal .int (Numeral.decimal k))
  | _, some s => .node (.literal .str (style.quote s))
  | _, _ => v

namespace Blueprint

/-- The type of what a blueprint stands for. -/
inductive HasType : Blueprint → SemanticType → Prop
  | operand {v : Value} {type : SemanticType} (h : v.HasType type) : HasType (operand v) type
  | equality {left right : Blueprint} {type : SemanticType} (hl : HasType left type)
    (hr : HasType right type) : HasType (equality left right) .bool
  | conjunction {left right : Blueprint} (hl : HasType left .bool) (hr : HasType right .bool) :
    HasType (conjunction left right) .bool

/-- No integer of a blueprint has too many digits. -/
def WithinDigits : Blueprint → Prop
  | operand v => v.WithinDigits
  | equality left right | conjunction left right => left.WithinDigits ∧ right.WithinDigits

/-- A blueprint that is no more than a raw value. -/
def isRaw : Blueprint → Bool
  | operand v => !v.isNode
  | equality .. | conjunction .. => false

/-- The filter that a blueprint stands for. Operands keep their order, but a raw value is never
compared with a node on its right. -/
def elaborate (style : QuoteStyle) : Blueprint → Value
  | operand v => v.elaborate style
  | equality left right =>
    if left.isRaw && !right.isRaw then
      .node (.binary (right.elaborate style) equalitySign (left.elaborate style) .bool)
    else .node (.binary (left.elaborate style) equalitySign (right.elaborate style) .bool)
  | conjunction left right =>
    .node (.binary (left.elaborate style) conjunctionSign (right.elaborate style) .bool)

end Blueprint

namespace Value

variable {style : QuoteStyle} {v : Value} {type : SemanticType} {n m : Node}

/-- No node is an integer. -/
@[simp] theorem integer?_node (n : Node) : (node n).integer? = Option.none := rfl

/-- No node is a text. -/
@[simp] theorem text?_node (n : Node) : (node n).text? = Option.none := rfl

/-- A node is its own elaboration. -/
@[simp] theorem elaborate_node (style : QuoteStyle) (n : Node) :
    (node n).elaborate style = node n := rfl

/-- A node has exactly its own type. -/
theorem hasType_node_iff : (node n).HasType type ↔ n.type? = some type := by
  constructor
  · intro h
    cases h with
    | node h => exact h
    | integer h => simp at h
    | text h => simp at h
  · exact .node

/-- What has a type is elaborated to a node, in either style. -/
theorem HasType.elaborates (h : v.HasType type) (style : QuoteStyle) :
    ∃ n, v.elaborate style = .node n := by
  unfold elaborate
  cases h with
  | node h => exact ⟨_, rfl⟩
  | integer h => exact ⟨_, by rw [h]⟩
  | text h => cases hk : v.integer? <;> exact ⟨_, by rw [h]⟩

end Value

namespace Bundle

variable {style : QuoteStyle} {v : Value} {type : SemanticType} {n : Node}

/-- Over the default bundle an operand stands for a node of a type exactly if it has the type. -/
theorem standsForDefault_iff :
    Value.StandsFor (Bundle.default style).Offers v type n ↔
      v.HasType type ∧ v.WithinDigits ∧ v.elaborate style = .node n := by
  cases hv : v.isNode with
  | true =>
    obtain ⟨m, rfl⟩ := Value.eq_node_of_isNode hv
    simp [Value.standsFor_node_iff, Value.hasType_node_iff, Value.WithinDigits, eq_comm]
  | false =>
    rw [Value.standsFor_raw_iff hv, offers_default_iff]
    constructor
    · rintro (⟨k, hk, hdigits, rfl, rfl⟩ | ⟨s, hs, rfl, rfl⟩)
      · refine ⟨.integer hk, ?_, by simp [Value.elaborate, hk]⟩
        intro k' hk'
        rwa [Option.some.inj (hk'.symm.trans hk)]
      · have hinteger := Value.integer?_of_text? hs
        refine ⟨.text hs, ?_, by simp [Value.elaborate, hinteger, hs]⟩
        simp [Value.WithinDigits, hinteger]
    · rintro ⟨htype, hdigits, helaborate⟩
      cases htype with
      | node _ => simp at hv
      | @integer _ k hk =>
        refine .inl ⟨k, hk, hdigits k hk, rfl, ?_⟩
        simpa [Value.elaborate, hk, eq_comm] using helaborate
      | @text _ s hs =>
        refine .inr ⟨s, hs, rfl, ?_⟩
        simpa [Value.elaborate, Value.integer?_of_text? hs, hs, eq_comm] using helaborate

/-- Over the default bundle only filters stand for nodes of the truth type. -/
theorem standsForDefault_bool_iff :
    Value.StandsFor (Bundle.default style).Offers v .bool n ↔ v = .node n ∧ n.type? = some .bool := by
  rw [standsForDefault_iff]
  constructor
  · rintro ⟨htype, -, helaborate⟩
    cases htype with
    | node h =>
      cases helaborate
      exact ⟨rfl, h⟩
  · rintro ⟨rfl, h⟩
    exact ⟨.node h, by simp [Value.WithinDigits], rfl⟩

end Bundle

namespace Blueprint

variable {operators : Operators} {style : QuoteStyle} {left right t : Blueprint} {v : Value}
  {type : SemanticType} {n : Node}

/-- Raw values stay raw, and everything else comes to a node. -/
theorem isNode_of_eval (filters : operators.MakeFilters) (h : (t.eval operators).result = .ok v) :
    v.isNode = !t.isRaw := by
  cases t with
  | operand w =>
    rw [eval_operand_eq_ok_iff.mp h]
    simp [isRaw]
  | equality left right =>
    obtain ⟨l, r, -, -, hjoin⟩ := eval_equality_eq_ok_iff.mp h
    obtain ⟨n, rfl, -⟩ := filters.equate hjoin
    rfl
  | conjunction left right =>
    obtain ⟨l, r, -, -, hjoin⟩ := eval_conjunction_eq_ok_iff.mp h
    obtain ⟨n, rfl, -⟩ := filters.conjoin hjoin
    rfl

/-- The operands of a comparison are turned exactly if the left side is raw and the right is not. -/
theorem turned_of_eval {l r : Value} (filters : operators.MakeFilters)
    (hl : (left.eval operators).result = .ok l) (hr : (right.eval operators).result = .ok r) :
    Value.turned l r = if left.isRaw && !right.isRaw then (r, l) else (l, r) := by
  simp [Value.turned, isNode_of_eval filters hl, isNode_of_eval filters hr]

/-- What a side of a join comes to over the default bundle stands for a node of a type. -/
def Reaches (style : QuoteStyle) (t : Blueprint) (type : SemanticType) (n : Node) : Prop :=
  ∃ v, (t.eval (Bundle.default style).operators).result = .ok v ∧
    Value.StandsFor (Bundle.default style).Offers v type n

/-- What has a type stands for a node. -/
theorem HasType.elaborates (h : t.HasType type) (style : QuoteStyle) :
    ∃ n, t.elaborate style = .node n := by
  cases h with
  | operand h => exact h.elaborates style
  | equality _ _ =>
    unfold elaborate
    split <;> exact ⟨_, rfl⟩
  | conjunction _ _ => exact ⟨_, rfl⟩

/-- An operand reaches the types at which it stands for a node. -/
theorem reaches_operand_iff :
    (operand v).Reaches style type n ↔ Value.StandsFor (Bundle.default style).Offers v type n := by
  simp [Reaches, eval_operand_eq_ok_iff]

/-- A comparison comes to a filter of what its sides come to at one type. -/
theorem reaches_equality_iff :
    (equality left right).Reaches style type n ↔
      type = .bool ∧ ∃ common l r, left.Reaches style common l ∧ right.Reaches style common r ∧
        n = if left.isRaw && !right.isRaw then r.comparison l else l.comparison r := by
  have filters := (Bundle.default style).operators_makeFilters
  constructor
  · rintro ⟨v, h, hstands⟩
    obtain ⟨l, r, hl, hr, hjoin⟩ := eval_equality_eq_ok_iff.mp h
    obtain ⟨common, a, b, ha, hb, rfl⟩ := Bundle.equate_default_eq_ok_iff.mp hjoin
    obtain ⟨htype, rfl⟩ := Value.standsFor_node_iff.mp hstands
    rw [turned_of_eval filters hl hr] at ha hb
    refine ⟨(Option.some.inj htype).symm, common, ?_⟩
    cases hturned : left.isRaw && !right.isRaw <;> rw [hturned] at ha hb
    · exact ⟨a, b, ⟨l, hl, ha⟩, ⟨r, hr, hb⟩, rfl⟩
    · exact ⟨b, a, ⟨l, hl, hb⟩, ⟨r, hr, ha⟩, rfl⟩
  · rintro ⟨rfl, common, a, b, ⟨l, hl, ha⟩, ⟨r, hr, hb⟩, rfl⟩
    have reach {c d : Node} (h : ((Bundle.default style).operators.equate l r).result =
        .ok (.node (c.comparison d))) :
        (equality left right).Reaches style .bool (c.comparison d) :=
      ⟨_, eval_equality_eq_ok_iff.mpr ⟨l, r, hl, hr, h⟩, .node rfl⟩
    cases hturned : left.isRaw && !right.isRaw
    · refine reach (Bundle.equate_default_eq_ok_iff.mpr ⟨common, a, b, ?_⟩)
      rw [turned_of_eval filters hl hr, hturned]
      exact ⟨ha, hb, rfl⟩
    · refine reach (Bundle.equate_default_eq_ok_iff.mpr ⟨common, b, a, ?_⟩)
      rw [turned_of_eval filters hl hr, hturned]
      exact ⟨hb, ha, rfl⟩

/-- A conjunction comes to a filter of the filters that its sides come to. -/
theorem reaches_conjunction_iff :
    (conjunction left right).Reaches style type n ↔
      type = .bool ∧ ∃ l r, left.Reaches style .bool l ∧ right.Reaches style .bool r ∧
        n = l.conjunction r := by
  simp only [Reaches, Bundle.standsForDefault_bool_iff]
  constructor
  · rintro ⟨v, h, hstands⟩
    obtain ⟨_, _, hl, hr, hjoin⟩ := eval_conjunction_eq_ok_iff.mp h
    obtain ⟨l, r, rfl, rfl, hlt, hrt, rfl⟩ := Node.conjoin_eq_ok_iff.mp hjoin
    obtain ⟨htype, rfl⟩ := Value.standsFor_node_iff.mp hstands
    exact ⟨(Option.some.inj htype).symm, l, r, ⟨_, hl, rfl, hlt⟩, ⟨_, hr, rfl, hrt⟩, rfl⟩
  · rintro ⟨rfl, l, r, ⟨_, hl, rfl, hlt⟩, ⟨_, hr, rfl, hrt⟩, rfl⟩
    refine ⟨_, eval_conjunction_eq_ok_iff.mpr ⟨_, _, hl, hr, ?_⟩, .node rfl⟩
    exact Node.conjoin_eq_ok_iff.mpr ⟨l, r, rfl, rfl, hlt, hrt, rfl⟩

/-- What a blueprint comes to over the default bundle is given by its type and its elaboration. -/
theorem reaches_iff :
    t.Reaches style type n ↔ t.HasType type ∧ t.WithinDigits ∧ t.elaborate style = .node n := by
  induction t generalizing type n with
  | operand v =>
    rw [reaches_operand_iff, Bundle.standsForDefault_iff]
    constructor
    · rintro ⟨htype, h⟩
      exact ⟨.operand htype, h⟩
    · rintro ⟨⟨htype⟩, h⟩
      exact ⟨htype, h⟩
  | equality left right ihl ihr =>
    simp only [reaches_equality_iff, ihl, ihr]
    constructor
    · rintro ⟨rfl, common, l, r, ⟨hlt, hld, hl⟩, ⟨hrt, hrd, hr⟩, rfl⟩
      refine ⟨.equality hlt hrt, ⟨hld, hrd⟩, ?_⟩
      simp only [elaborate, hl, hr]
      split <;> rfl
    · rintro ⟨htype, ⟨hld, hrd⟩, h⟩
      cases htype with
      | equality hlt hrt =>
        obtain ⟨l, hl⟩ := hlt.elaborates style
        obtain ⟨r, hr⟩ := hrt.elaborates style
        refine ⟨rfl, _, l, r, ⟨hlt, hld, hl⟩, ⟨hrt, hrd, hr⟩, ?_⟩
        simp only [elaborate, hl, hr] at h
        split at h
        · rename_i hturned
          simpa [hturned, Node.comparison, eq_comm] using h
        · rename_i hturned
          simpa [hturned, Node.comparison, eq_comm] using h
  | conjunction left right ihl ihr =>
    simp only [reaches_conjunction_iff, ihl, ihr]
    constructor
    · rintro ⟨rfl, l, r, ⟨hlt, hld, hl⟩, ⟨hrt, hrd, hr⟩, rfl⟩
      refine ⟨.conjunction hlt hrt, ⟨hld, hrd⟩, ?_⟩
      simp only [elaborate, hl, hr]
      rfl
    · rintro ⟨htype, ⟨hld, hrd⟩, h⟩
      cases htype with
      | conjunction hlt hrt =>
        obtain ⟨l, hl⟩ := hlt.elaborates style
        obtain ⟨r, hr⟩ := hrt.elaborates style
        refine ⟨rfl, l, r, ⟨hlt, hld, hl⟩, ⟨hrt, hrd, hr⟩, ?_⟩
        simpa [elaborate, hl, hr, Node.conjunction, eq_comm] using h

/-- Over the default bundle the well-typed blueprints of the truth type are built. -/
theorem build_default_eq_ok_iff :
    (t.build (.default style)).result = .ok v ↔
      t.HasType .bool ∧ t.WithinDigits ∧ v = t.elaborate style := by
  rw [build_eq_ok_iff]
  constructor
  · rintro ⟨h, n, rfl, hn⟩
    obtain ⟨htype, hdigits, helaborate⟩ := reaches_iff.mp ⟨_, h, .node hn⟩
    exact ⟨htype, hdigits, helaborate.symm⟩
  · rintro ⟨htype, hdigits, rfl⟩
    obtain ⟨n, hn⟩ := htype.elaborates style
    obtain ⟨v, h, hstands⟩ := reaches_iff.mpr ⟨htype, hdigits, hn⟩
    obtain ⟨rfl, hbool⟩ := Bundle.standsForDefault_bool_iff.mp hstands
    rw [hn]
    exact ⟨h, n, rfl, hbool⟩

/-- Over the adapters of the default bundle those of them are built that compare nodes of known
types. -/
theorem buildUnified_default_eq_ok_iff :
    (t.buildUnified (.default style)).result = .ok v ↔
      (t.build (.default style)).result = .ok v ∧ t.ComparesAt [.int, .str, .bool] := by
  rw [buildUnified_eq_ok_iff, build_eq_ok_iff]
  constructor
  · rintro ⟨h, filter⟩
    have hplain := eval_of_eval_unified (Bundle.distinct_default style)
      (Bundle.unambiguous_default style) (Bundle.bool_notMem_default style) h
    exact ⟨⟨hplain, filter⟩, comparesAt_of_eval_unified h⟩
  · rintro ⟨⟨h, filter⟩, known⟩
    exact ⟨eval_unified_of_eval (Bundle.distinct_default style) known h, filter⟩

/-- **Exactly the well-typed blueprints are built** over the default bundle, and to the filters they
stand for. Over the adapters of the bundle this holds of the blueprints that compare nodes of known
types only. -/
theorem builds_iff (style : QuoteStyle) (t : Blueprint) (v : Value) :
    ((t.build (.default style)).result = .ok v ↔
      (t.HasType .bool ∧ t.WithinDigits) ∧ v = t.elaborate style) ∧
    ((t.buildUnified (.default style)).result = .ok v ↔
      (t.HasType .bool ∧ t.ComparesAt [.int, .str, .bool] ∧ t.WithinDigits) ∧
        v = t.elaborate style) := by
  rw [buildUnified_default_eq_ok_iff, build_default_eq_ok_iff]
  constructor
  · exact and_assoc.symm
  · constructor
    · rintro ⟨⟨htype, hdigits, h⟩, known⟩
      exact ⟨⟨htype, known, hdigits⟩, h⟩
    · rintro ⟨⟨htype, known, hdigits⟩, h⟩
      exact ⟨⟨htype, hdigits, h⟩, known⟩

end Blueprint

end FilterAlgebra
