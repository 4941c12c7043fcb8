import FilterAlgebra.Proofs.Joins

/-!
# What a bundle makes of operands

A bundle converts a raw operand by one of its capabilities: `Bundle.pick?` names the
capability, and `Bundle.Converts` says which literal it writes. In a comparison a node
stands for itself and a raw operand for what it is converted to (`Value.StandsFor`).
`Bundle.equate_eq_ok_iff` describes comparisons of operands of all shapes in these words:
the operands, a raw one not before a node, stand for two nodes of one type.
-/

set_option autoImplicit false

namespace FilterAlgebra

namespace Capability

variable {c : Capability} {v : Value} {text other : String}

/-- A capability lets a value pass and writes it as a text. -/
def Writes (c : Capability) (v : Value) (text : String) : Prop :=
  ∃ plain, c.validate v = .ok plain ∧ c.format plain = .ok text

/-- What a capability writes it accepts. -/
theorem Writes.accepts (h : c.Writes v text) : c.accepts v = true := by
  obtain ⟨plain, hpass, -⟩ := h
  simp [Capability.accepts, hpass, Except.isOk, Except.toBool]

/-- A capability writes a value in one way only. -/
theorem Writes.unique (h : c.Writes v text) (h' : c.Writes v other) : text = other := by
  obtain ⟨plain, hpass, hwritten⟩ := h
  obtain ⟨plain', hpass', hwritten'⟩ := h'
  rw [hpass, Except.ok.injEq] at hpass'
  subst hpass'
  exact Except.ok.inj (hwritten.symm.trans hwritten')

/-- A conversion succeeds exactly if the value can be written, and gives the literal of the text. -/
theorem asExpression_eq_ok_iff {n : Node} :
    (c.asExpression v).result = .ok n ↔ ∃ text, c.Writes v text ∧ n = .literal c.type text := by
  unfold asExpression Writes
  cases hpass : c.validate v with
  | error issues =>
    have hreject : (c.reject v issues : Traced Node).result ≠ .ok n := by
      intro h
      simp only [reject, Traced.result_bind_eq_ok, Traced.result_fail] at h
      obtain ⟨_, -, _, -, _, -, h⟩ := h
      cases h
    simp [hreject]
  | ok plain =>
    simp only [Traced.result_ofFault_eq_ok, literal, Except.ok.injEq, exists_eq_left']
    cases hwritten : c.format plain with
    | error f => simp [Bind.bind, Except.bind]
    | ok text => simp [Bind.bind, Except.bind, pure, Except.pure, eq_comm]

end Capability

namespace Value

variable {converts other : Value → SemanticType → Node → Prop} {left right v : Value}
  {type : SemanticType} {n m : Node}

/-- The two operands of a comparison in the order in which they are written. -/
def turned (left right : Value) : Value × Value :=
  if !left.isNode && right.isNode then (right, left) else (left, right)

/-- Operands stay in their places if the left one is a node. -/
theorem turned_node (h : left.isNode = true) : turned left right = (left, right) := by
  simp [turned, h]

/-- A raw operand on the left of a node changes places with it. -/
theorem turned_raw_node (hl : left.isNode = false) (hr : right.isNode = true) :
    turned left right = (right, left) := by
  simp [turned, hl, hr]

/-- Operands stay in their places if the right one is raw. -/
theorem turned_raws (h : right.isNode = false) : turned left right = (left, right) := by
  simp [turned, h]

/-- Two nodes are never turned. -/
theorem eq_of_turned_nodes (h : turned left right = (node n, node m)) :
    left = node n ∧ right = node m := by
  unfold turned at h
  split at h
  · rename_i hturn
    obtain ⟨rfl, rfl⟩ := Prod.mk.inj h
    simp at hturn
  · exact Prod.mk.inj h

/-- What an operand stands for at a type: a node of the type for itself, a raw value for what it is
converted to. -/
inductive StandsFor (converts : Value → SemanticType → Node → Prop) :
    Value → SemanticType → Node → Prop
  | node {n : Node} {type : SemanticType} (h : n.type? = some type) :
    StandsFor converts (.node n) type n
  | raw {v : Value} {type : SemanticType} {n : Node} (raw : v.isNode = false)
    (h : converts v type n) : StandsFor converts v type n

/-- A node stands for itself, at its own type. -/
theorem standsFor_node_iff : StandsFor converts (node n) type m ↔ n.type? = some type ∧ m = n := by
  constructor
  · intro h
    cases h with
    | node h => exact ⟨h, rfl⟩
    | raw raw _ => simp at raw
  · rintro ⟨h, rfl⟩
    exact .node h

/-- A raw value stands for what it is converted to. -/
theorem standsFor_raw_iff (raw : v.isNode = false) :
    StandsFor converts v type n ↔ converts v type n := by
  constructor
  · intro h
    cases h with
    | node _ => simp at raw
    | raw _ h => exact h
  · exact .raw raw

/-- Where raw values are converted to literals, an operand stands for a node of the type, which is
itself or a literal. -/
theorem StandsFor.itself_or_literal (h : StandsFor converts v type n)
    (literals : ∀ {v type n}, converts v type n → ∃ text, n = .literal type text) :
    n.type? = some type ∧ (v = .node n ∨ ∃ text, n = .literal type text) := by
  cases h with
  | node h => exact ⟨h, .inl rfl⟩
  | raw _ h =>
    obtain ⟨text, rfl⟩ := literals h
    exact ⟨rfl, .inr ⟨text, rfl⟩⟩

/-- What an operand stands for by one rule of conversion it stands for by any weaker one. -/
theorem StandsFor.imp (h : StandsFor converts v type n)
    (weaker : ∀ {v type n}, v.isNode = false → converts v type n → other v type n) :
    StandsFor other v type n := by
  cases h with
  | node h => exact .node h
  | raw raw h => exact .raw raw (weaker raw h)

end Value

namespace Bundle

variable {bundle : Bundle} {v left right w : Value} {type : SemanticType} {n m : Node}

/-- The capability that a raw value is converted by: that of the type that is required, or the
first one that accepts the value where none is. -/
def pick? (bundle : Bundle) (v : Value) (type : SemanticType) : Option Capability :=
  if type = .absent then bundle.capabilities.find? (·.accepts v) else bundle.capability? type

/-- A raw value is converted to a literal of the type that is required. -/
def Converts (bundle : Bundle) (v : Value) (type : SemanticType) (n : Node) : Prop :=
  ∃ c text, bundle.pick? v type = some c ∧ c.type = type ∧ c.Writes v text ∧ n = .literal type text

/-- A raw value is converted to a literal of a type where no type is required. -/
def ConvertsFirst (bundle : Bundle) (v : Value) (type : SemanticType) (n : Node) : Prop :=
  ∃ c text, bundle.capabilities.find? (·.accepts v) = some c ∧ c.type = type ∧ c.Writes v text ∧
    n = .literal type text

/-- A conversion makes a literal of the type. -/
theorem Converts.literal (h : bundle.Converts v type n) : ∃ text, n = .literal type text := by
  obtain ⟨_, text, -, -, -, rfl⟩ := h
  exact ⟨text, rfl⟩

/-- The conversion by the first capability that accepts makes a literal, too. -/
theorem ConvertsFirst.literal (h : bundle.ConvertsFirst v type n) :
    ∃ text, n = .literal type text := by
  obtain ⟨_, text, -, -, -, rfl⟩ := h
  exact ⟨text, rfl⟩

/-- The search for an accepting capability finds the first one and records nothing. -/
theorem firstAccepting_eq_find? (bundle : Bundle) (v : Value) (capabilities : List Capability) :
    bundle.lifting.firstAccepting v capabilities = pure (capabilities.find? (·.accepts v)) := by
  induction capabilities with
  | nil => rfl
  | cons c rest ih =>
    cases h : c.accepts v <;> simp [Lifting.firstAccepting, lifting, h]
    exact ih

/-- A capability that is asked for by its type must be active. -/
theorem capabilityFor_eq_ok_iff {c : Capability} :
    (bundle.capabilityFor type).result = .ok c ↔ bundle.capability? type = some c := by
  unfold capabilityFor
  cases h : bundle.capability? type with
  | some capability => simp
  | none => cases hname : type.name <;> simp

/-- Lifting a raw value succeeds exactly if the capability that is picked for it writes it. -/
theorem lift_raw_eq_ok_iff (raw : v.isNode = false) :
    (bundle.lift v type).result = .ok w ↔
      ∃ c text, bundle.pick? v type = some c ∧ c.Writes v text ∧
        w = .node (.literal c.type text) := by
  have convert (c : Capability) : (bundle.lifting.convert c v).result = .ok w ↔
      ∃ text, c.Writes v text ∧ w = .node (.literal c.type text) := by
    simp only [lifting, Traced.result_map_eq_ok, Capability.asExpression_eq_ok_iff]
    constructor
    · rintro ⟨_, ⟨text, hwrites, rfl⟩, rfl⟩
      exact ⟨text, hwrites, rfl⟩
    · rintro ⟨text, hwrites, rfl⟩
      exact ⟨_, ⟨text, hwrites, rfl⟩, rfl⟩
  unfold lift Lifting.lift pick?
  split
  · simp only [Lifting.liftAny, Operands.values_isNode, raw, pure_bind, Bool.false_eq_true, if_false]
    rw [show bundle.lifting.members = pure bundle.capabilities from rfl, pure_bind,
      firstAccepting_eq_find?, pure_bind]
    cases hfind : bundle.capabilities.find? (·.accepts v) with
    | none => simp
    | some c => simpa using convert c
  · simp only [Lifting.liftTo, Operands.values_isNode, raw, pure_bind, Bool.false_eq_true, if_false,
      Traced.result_bind_eq_ok, convert]
    simp only [show bundle.lifting.capabilityFor type = bundle.capabilityFor type from rfl,
      capabilityFor_eq_ok_iff]
    exact ⟨fun ⟨c, hc, text, h⟩ => ⟨c, text, hc, h⟩, fun ⟨c, text, hc, h⟩ => ⟨c, hc, text, h⟩⟩

/-- A raw value is lifted without a required type exactly if the first capability that accepts it writes
it. -/
theorem lift_absent_raw_eq_ok_iff (raw : v.isNode = false) :
    (bundle.lift v .absent).result = .ok w ↔
      ∃ type n, bundle.ConvertsFirst v type n ∧ w = .node n := by
  rw [lift_raw_eq_ok_iff raw]
  constructor
  · rintro ⟨c, text, hpick, hwrites, rfl⟩
    exact ⟨c.type, _, ⟨c, text, by simpa [pick?] using hpick, rfl, hwrites, rfl⟩, rfl⟩
  · rintro ⟨_, _, ⟨c, text, hfind, rfl, hwrites, rfl⟩, rfl⟩
    exact ⟨c, text, by simpa [pick?] using hfind, hwrites, rfl⟩

/-- A node is lifted to itself, if it has the type that is required. -/
theorem lift_node_eq_ok_iff :
    (bundle.lift (.node n) type).result = .ok w ↔
      (type = .absent ∨ n.type? = some type) ∧ w = .node n := by
  unfold lift Lifting.lift
  split
  · rename_i habsent
    simp [Lifting.liftAny, habsent, eq_comm]
  · rename_i hrequired
    simp only [Lifting.liftTo, Operands.values_isNode, Value.isNode_node, pure_bind, if_true,
      Lifting.requireType, Operands.values_typeOf, Traced.result_bind_eq_ok,
      Traced.result_ofFault_eq_ok, Value.semanticType_node_eq_ok, hrequired, false_or]
    constructor
    · rintro ⟨actual, hactual, h⟩
      by_cases hsame : actual = type
      · subst hsame
        exact ⟨hactual, by simpa [eq_comm] using h⟩
      · cases ha : actual.name <;> cases hr : type.name <;> simp [hsame, ha, hr] at h
    · rintro ⟨htype, rfl⟩
      exact ⟨type, htype, by simp⟩

/-- A node is compared with a raw value by converting the value to the type of the node. -/
theorem equateWith_eq_ok_iff (raw : v.isNode = false) :
    (Operands.values.equateWith bundle.lift (.node n) v).result = .ok w ↔
      ∃ type l r, Value.StandsFor bundle.ConvertsFirst (.node n) type l ∧
        Value.StandsFor bundle.Converts v type r ∧ w = .node (Node.comparison l r) := by
  simp only [Operands.equateWith, Operands.values_typeOf, Traced.result_bind_eq_ok,
    Traced.result_ofFault_eq_ok, Value.semanticType_node_eq_ok, lift_raw_eq_ok_iff raw,
    Value.standsFor_node_iff, Value.standsFor_raw_iff raw]
  constructor
  · rintro ⟨type, htype, _, ⟨c, text, hpick, hwrites, rfl⟩, hequate⟩
    obtain ⟨l, r, type', hl, hr, hlt, hrt, rfl⟩ := Node.equate_eq_ok_iff.mp hequate
    cases hl
    cases hr
    obtain rfl : type = type' := Option.some.inj (htype.symm.trans hlt)
    have hc : c.type = type := Option.some.inj hrt
    exact ⟨type, _, _, ⟨htype, rfl⟩, ⟨c, text, hpick, hc, hwrites, by rw [hc]⟩, rfl⟩
  · rintro ⟨_, _, _, ⟨htype, rfl⟩, ⟨c, text, hpick, rfl, hwrites, rfl⟩, rfl⟩
    exact ⟨c.type, htype, _, ⟨c, text, hpick, hwrites, rfl⟩,
      Node.equate_eq_ok_iff.mpr ⟨_, _, c.type, rfl, rfl, htype, rfl, rfl⟩⟩

/-! ### Comparisons by the shapes of their operands -/

/-- Two nodes are compared as they are. -/
theorem equate_nodes (bundle : Bundle) (left right : Node) :
    bundle.equate (.node left) (.node right) = Node.equate (.node left) (.node right) := by
  simp [Bundle.equate, Operands.equateLifting, Node.equate]

/-- A raw value on the right of a node is lifted to the type of the node. -/
theorem equate_node_raw (bundle : Bundle) (n : Node) (raw : v.isNode = false) :
    bundle.equate (.node n) v = Operands.values.equateWith bundle.lift (.node n) v := by
  simp [Bundle.equate, Operands.equateLifting, raw]

/-- A raw value on the left of a node changes places with it and is lifted in the same way. -/
theorem equate_raw_node (bundle : Bundle) (n : Node) (raw : v.isNode = false) :
    bundle.equate v (.node n) = Operands.values.equateWith bundle.lift (.node n) v := by
  simp [Bundle.equate, Operands.equateLifting, raw]

/-- Of two raw values the left one is lifted to any type, and the right one to the type of what came of
it. -/
theorem equate_raws (bundle : Bundle) (rawLeft : left.isNode = false)
    (rawRight : right.isNode = false) :
    bundle.equate left right = bundle.lift left .absent >>= fun lifted =>
      Operands.values.equateWith bundle.lift lifted right := by
  simp [Bundle.equate, Operands.equateLifting, rawLeft, rawRight]

/-- A comparison is that of what its operands stand for at one type. Of two raw operands the left one
takes the first capability that accepts it. -/
theorem equate_eq_ok_iff :
    (bundle.equate left right).result = .ok w ↔
      ∃ type l r, Value.StandsFor bundle.ConvertsFirst (Value.turned left right).1 type l ∧
        Value.StandsFor bundle.Converts (Value.turned left right).2 type r ∧
        w = .node (Node.comparison l r) := by
  cases hl : left.isNode <;> cases hr : right.isNode
  · rw [Value.turned_raws hr, equate_raws bundle hl hr, Traced.result_bind_eq_ok]
    simp only [lift_absent_raw_eq_ok_iff hl, Value.standsFor_raw_iff hl]
    constructor
    · rintro ⟨_, ⟨_, _, ⟨c, text, hfind, rfl, hwrites, rfl⟩, rfl⟩, h⟩
      obtain ⟨type, n, m, hn, hm, rfl⟩ := (equateWith_eq_ok_iff hr).mp h
      obtain ⟨htype, rfl⟩ := Value.standsFor_node_iff.mp hn
      obtain rfl : c.type = type := Option.some.inj htype
      exact ⟨c.type, _, m, ⟨c, text, hfind, rfl, hwrites, rfl⟩, hm, rfl⟩
    · rintro ⟨_, _, m, ⟨c, text, hfind, rfl, hwrites, rfl⟩, hm, rfl⟩
      exact ⟨_, ⟨c.type, _, ⟨c, text, hfind, rfl, hwrites, rfl⟩, rfl⟩,
        (equateWith_eq_ok_iff hr).mpr ⟨c.type, _, m, .node rfl, hm, rfl⟩⟩
  · obtain ⟨n, rfl⟩ := Value.eq_node_of_isNode hr
    rw [Value.turned_raw_node hl hr, equate_raw_node bundle n hl]
    exact equateWith_eq_ok_iff hl
  · obtain ⟨n, rfl⟩ := Value.eq_node_of_isNode hl
    rw [Value.turned_node hl, equate_node_raw bundle n hr]
    exact equateWith_eq_ok_iff hr
  · obtain ⟨n, rfl⟩ := Value.eq_node_of_isNode hl
    obtain ⟨m, rfl⟩ := Value.eq_node_of_isNode hr
    rw [Value.turned_node hl, equate_nodes, Node.equate_eq_ok_iff]
    simp only [Value.standsFor_node_iff, Value.node.injEq]
    constructor
    · rintro ⟨_, _, type, rfl, rfl, hn, hm, rfl⟩
      exact ⟨type, n, m, ⟨hn, rfl⟩, ⟨hm, rfl⟩, rfl⟩
    · rintro ⟨type, _, _, ⟨hn, rfl⟩, ⟨hm, rfl⟩, rfl⟩
      exact ⟨_, _, type, rfl, rfl, hn, hm, rfl⟩

end Bundle

end FilterAlgebra
