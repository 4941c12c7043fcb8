import FilterAlgebra.Proofs.Adapters

/-!
# Sound nodes

A node is sound if every join in it is a comparison of two nodes of one type or a
conjunction of two filters. The constructor of joins checks nothing, so this is a matter
of the operations that use it: each of them keeps soundness, both those that check their
operands and those that rely on what adapters promise. Sound nodes can be rendered.
-/

set_option autoImplicit false

namespace FilterAlgebra

/-- A well-formed node: both operands of every join are nodes, a comparison has operands of one type
and a conjunction has filters for its operands, and every join is a filter. -/
inductive Node.Sound : Node → Prop
  | property {kind : PropertyKind} (typed : kind.type?.isSome = true) (name : String) :
    Sound (.property kind (.plain name))
  | literal (type : SemanticType) (text : String) : Sound (.literal type text)
  | equality {left right : Node} {type : SemanticType} (hl : Sound left) (hr : Sound right)
    (leftType : left.type? = some type) (rightType : right.type? = some type) :
    Sound (.binary (.node left) equalitySign (.node right) .bool)
  | conjunction {left right : Node} (hl : Sound left) (hr : Sound right)
    (leftType : left.type? = some .bool) (rightType : right.type? = some .bool) :
    Sound (.binary (.node left) conjunctionSign (.node right) .bool)

/-- Raw values are sound, and nodes are if they are well-formed. -/
def Value.Sound (v : Value) : Prop :=
  ∀ n, v = .node n → n.Sound

/-- A value is a sound filter. -/
def Value.SoundFilter (v : Value) : Prop :=
  ∃ n, v = .node n ∧ n.Sound ∧ n.type? = some .bool

/-- A sound node has a text. -/
theorem Node.Sound.renders {n : Node} (h : n.Sound) : ∃ text, n.render = .ok text := by
  have joined {l r : Node} {sign : String} (hl : ∃ text, l.render = .ok text)
      (hr : ∃ text, r.render = .ok text) :
      ∃ text, (Node.binary (.node l) sign (.node r) .bool).render = .ok text := by
    obtain ⟨left, hl⟩ := hl
    obtain ⟨right, hr⟩ := hr
    exact ⟨_, render_binary sign .bool hl hr⟩
  induction h with
  | property _ name => exact ⟨name, rfl⟩
  | literal _ text => exact ⟨text, rfl⟩
  | equality _ _ _ _ ihl ihr => exact joined ihl ihr
  | conjunction _ _ _ _ ihl ihr => exact joined ihl ihr

namespace Value

variable {v w left right : Value} {n : Node}

/-- A node is sound as a value exactly if it is sound as a node. -/
theorem sound_node_iff : (node n).Sound ↔ n.Sound := by
  simp [Sound]

/-- Raw values are sound. -/
theorem sound_of_raw (raw : v.isNode = false) : v.Sound := by
  rintro n rfl
  simp at raw

/-- Sound operands are sound in whatever order they are taken. -/
theorem sound_turned (hl : left.Sound) (hr : right.Sound) :
    (turned left right).1.Sound ∧ (turned left right).2.Sound := by
  unfold turned
  split
  · exact ⟨hr, hl⟩
  · exact ⟨hl, hr⟩

/-- What a sound operand stands for is sound, where raw values are converted to literals. -/
theorem StandsFor.sound {converts : Value → SemanticType → Node → Prop} {type : SemanticType}
    (h : StandsFor converts v type n)
    (literals : ∀ {v type n}, converts v type n → ∃ text, n = .literal type text) (hv : v.Sound) :
    n.type? = some type ∧ n.Sound := by
  obtain ⟨htype, horigin⟩ := h.itself_or_literal literals
  refine ⟨htype, ?_⟩
  cases horigin with
  | inl hitself => exact hv n hitself
  | inr hliteral =>
    obtain ⟨text, rfl⟩ := hliteral
    exact .literal type text

/-- A sound filter is sound. -/
theorem SoundFilter.sound (h : v.SoundFilter) : v.Sound := by
  obtain ⟨n, rfl, hn, -⟩ := h
  exact sound_node_iff.mpr hn

end Value

/-! ### What each operation makes of sound operands -/

/-- A checked comparison of sound operands is a sound filter. -/
theorem Node.sound_of_equate {left right w : Value} (hl : left.Sound) (hr : right.Sound)
    (h : (Node.equate left right).result = .ok w) : w.SoundFilter := by
  obtain ⟨l, r, type, rfl, rfl, hlt, hrt, rfl⟩ := equate_eq_ok_iff.mp h
  exact ⟨_, rfl, .equality (hl l rfl) (hr r rfl) hlt hrt, rfl⟩

/-- A checked conjunction of sound operands is a sound filter. -/
theorem Node.sound_of_conjoin {left right w : Value} (hl : left.Sound) (hr : right.Sound)
    (h : (Node.conjoin left right).result = .ok w) : w.SoundFilter := by
  obtain ⟨l, r, rfl, rfl, hlt, hrt, rfl⟩ := conjoin_eq_ok_iff.mp h
  exact ⟨_, rfl, .conjunction (hl l rfl) (hr r rfl) hlt hrt, rfl⟩

/-- What two values have in common is raw. -/
theorem Value.isNode_of_common {left right v : Value} (h : left.common? right = some v) :
    v.isNode = false := by
  unfold common? at h
  split at h
  · cases h
    rfl
  · simp only [Option.bind_eq_bind, Option.bind_eq_some_iff] at h
    obtain ⟨a, -, b, -, hint⟩ := h
    cases hint
    rfl

/-- Classes that users define make no unsound nodes in answer to the sign, whatever else they answer. -/
structure ForeignSigns.Safe (foreign : ForeignSigns) : Prop where
  onLeft {left right v : Value} : left.Sound → right.Sound →
    (foreign.onLeft left right).result = .ok (some v) → v.Sound
  onRight {left right v : Value} : left.Sound → right.Sound →
    (foreign.onRight left right).result = .ok (some v) → v.Sound

/-- Where no class has an answer, none is unsound. -/
theorem ForeignSigns.Safe.silent : ForeignSigns.silent.Safe where
  onLeft _ _ h := by simp [ForeignSigns.silent] at h
  onRight _ _ h := by simp [ForeignSigns.silent] at h

section Sign

variable {foreign : ForeignSigns} {left right w : Value}

/-- The answer of the class of the left operand is sound: a filter, what a foreign class may answer, or
some bits. -/
theorem Value.sound_of_ofLeft (safe : foreign.Safe) (hl : left.Sound) (hr : right.Sound)
    (h : ((signAnswers foreign).ofLeft left right).result = .ok (some w)) : w.Sound := by
  simp only [signAnswers] at h
  split at h
  · obtain ⟨v, hv, hw⟩ := Traced.result_map_eq_ok.mp h
    cases hw
    exact (Node.sound_of_conjoin hl hr hv).sound
  · split at h
    · exact safe.onLeft hl hr h
    · exact sound_of_raw (isNode_of_common (by simpa using h))

/-- So is the answer of the class of the right operand. -/
theorem Value.sound_of_ofRight (safe : foreign.Safe) (hl : left.Sound) (hr : right.Sound)
    (h : ((signAnswers foreign).ofRight left right).result = .ok (some w)) : w.Sound := by
  simp only [signAnswers] at h
  split at h
  · obtain ⟨v, hv, hw⟩ := Traced.result_map_eq_ok.mp h
    cases hw
    exact (Node.sound_of_conjoin hl hr hv).sound
  · split at h
    · exact safe.onRight hl hr h
    · exact sound_of_raw (isNode_of_common (by simpa using h))

/-- Joining by the sign gives the answer of one of the two classes, and so something sound. -/
theorem Node.sound_of_ampersand (safe : foreign.Safe) (hl : left.Sound) (hr : right.Sound)
    (h : (Node.ampersand foreign left right).result = .ok w) : w.Sound := by
  unfold ampersand SignAnswers.join at h
  obtain ⟨answer, hanswer, h⟩ := Traced.result_bind_eq_ok.mp h
  cases answer with
  | some v =>
    obtain rfl : v = w := by simpa using h
    exact Value.sound_of_ofLeft safe hl hr hanswer
  | none =>
    obtain ⟨answer, hanswer, h⟩ := Traced.result_bind_eq_ok.mp h
    cases answer with
    | some v =>
      obtain rfl : v = w := by simpa using h
      exact Value.sound_of_ofRight safe hl hr hanswer
    | none => simp [Value.signAnswers] at h

end Sign

namespace Bundle

variable {bundle : Bundle} {left right v w : Value} {type : SemanticType}

/-- A comparison of sound operands in a bundle is a sound filter. -/
theorem sound_of_equate (hl : left.Sound) (hr : right.Sound)
    (h : (bundle.equate left right).result = .ok w) : w.SoundFilter := by
  obtain ⟨type, l, r, hsl, hsr, rfl⟩ := equate_eq_ok_iff.mp h
  obtain ⟨hlt, hls⟩ := hsl.sound (fun h => h.literal) (Value.sound_turned hl hr).1
  obtain ⟨hrt, hrs⟩ := hsr.sound (fun h => h.literal) (Value.sound_turned hl hr).2
  exact ⟨_, rfl, .equality hls hrs hlt hrt, rfl⟩

/-- Lifting gives back a node as it is, and makes a literal of a raw value. -/
theorem sound_of_lift (hv : v.Sound) (h : (bundle.lift v type).result = .ok w) : w.Sound := by
  cases hraw : v.isNode with
  | true =>
    obtain ⟨n, rfl⟩ := Value.eq_node_of_isNode hraw
    obtain ⟨-, rfl⟩ := lift_node_eq_ok_iff.mp h
    exact hv
  | false =>
    obtain ⟨c, text, -, -, rfl⟩ := (lift_raw_eq_ok_iff hraw).mp h
    exact Value.sound_node_iff.mpr (.literal c.type text)

end Bundle

namespace AdapterSet

variable {set : AdapterSet} {left right v w : Value} {type : SemanticType} {n : Node}

/-- What adapters make of a sound operand is sound. No adapter needs to be trusted for it. -/
theorem Brings.sound (hv : v.Sound) (h : set.Brings v type n) : n.Sound := by
  obtain ⟨a, -, hgives⟩ := h
  cases a with
  | raw c =>
    obtain ⟨text, -, rfl⟩ := hgives
    exact .literal c.type text
  | identity _ => exact hv n hgives

/-- A comparison of sound operands through any adapters is a sound filter. -/
theorem sound_of_equate (hl : left.Sound) (hr : right.Sound)
    (h : (set.equate left right).result = .ok w) : w.SoundFilter := by
  obtain ⟨type, l, r, -, hbl, hbr, rfl⟩ := equate_eq_ok_iff.mp h
  obtain ⟨hfirst, hsecond⟩ := Value.sound_turned hl hr
  exact ⟨_, rfl, .equality (hbl.sound hfirst) (hbr.sound hsecond) hbl.type? hbr.type?, rfl⟩

/-- A conjunction of sound operands through any adapters is a sound filter. -/
theorem sound_of_conjoin (hl : left.Sound) (hr : right.Sound)
    (h : (set.conjoin left right).result = .ok w) : w.SoundFilter := by
  obtain ⟨l, r, hbl, hbr, rfl⟩ := conjoin_eq_ok_iff.mp h
  exact ⟨_, rfl, .conjunction (hbl.sound hl) (hbr.sound hr) hbl.type? hbr.type?, rfl⟩

end AdapterSet

end FilterAlgebra
