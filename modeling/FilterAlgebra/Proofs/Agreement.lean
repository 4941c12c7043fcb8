import FilterAlgebra.Proofs.Expansion
import Mathlib.Data.List.Nodup
import Mathlib.Data.List.Pairwise

/-!
# Where the two designs agree

A bundle commits to the first capability that accepts the left operand; its adapters
search the types in turn and try both operands at each. If the capabilities serve
distinct types, both searches end at the same capabilities: a comparison over the bundle
is the same over its adapters as long as nodes are compared at types that adapters lead
to (`equate_of_bundle_equate`). The other way around no value may be accepted twice
(`bundle_equate_of_equate`), and for conjunctions no capability may serve the truth type,
since a bundle never turns a raw value into a filter (`bundle_conjoin_of_conjoin`).
-/

set_option autoImplicit false

namespace FilterAlgebra

/-- What a search finds, where no two members of the list pass its test. -/
theorem find?_eq_some_iff_of_unique {α : Type} {members : List α} {p : α → Bool} {a : α}
    (unique : ∀ a ∈ members, ∀ b ∈ members, p a = true → p b = true → a = b) :
    members.find? p = some a ↔ a ∈ members ∧ p a = true := by
  constructor
  · intro h
    exact ⟨List.mem_of_find?_eq_some h, List.find?_some h⟩
  · rintro ⟨hmem, hp⟩
    cases hfind : members.find? p with
    | none => exact absurd hp (List.find?_eq_none.mp hfind a hmem)
    | some b =>
      rw [unique b (List.mem_of_find?_eq_some hfind) a hmem (List.find?_some hfind) hp]

/-- What is found first is also found first by a sharper test that it passes. -/
theorem find?_of_sharper {α : Type} {members : List α} {p q : α → Bool} {a : α}
    (h : members.find? p = some a) (hq : q a = true)
    (sharper : ∀ b ∈ members, q b = true → p b = true) :
    members.find? q = some a := by
  rw [List.find?_eq_some_iff_append] at h ⊢
  obtain ⟨-, before, after, hsplit, hbefore⟩ := h
  refine ⟨hq, before, after, hsplit, fun b hb => ?_⟩
  have hpb := hbefore b hb
  cases hqb : q b with
  | false => rfl
  | true => simp [sharper b (hsplit ▸ List.mem_append_left _ hb) hqb] at hpb

namespace Bundle

variable {bundle : Bundle} {v left right w : Value} {type : SemanticType} {n m : Node}

/-- No raw value is accepted by two capabilities of a bundle. -/
def Unambiguous (bundle : Bundle) : Prop :=
  bundle.capabilities.Pairwise fun c d =>
    ∀ v : Value, v.isNode = false → ¬(c.accepts v = true ∧ d.accepts v = true)

/-- A capability of a bundle writes a raw value at the type it serves. -/
def Offers (bundle : Bundle) (v : Value) (type : SemanticType) (n : Node) : Prop :=
  ∃ c ∈ bundle.capabilities, c.type = type ∧ ∃ text, c.Writes v text ∧ n = .literal type text

/-- Where every capability has a type of its own, the type tells the capability. -/
theorem eq_of_type_eq (distinct : bundle.types.Nodup) {c d : Capability}
    (hc : c ∈ bundle.capabilities) (hd : d ∈ bundle.capabilities) (h : c.type = d.type) : c = d :=
  List.inj_on_of_nodup_map distinct hc hd h

/-- In an unambiguous bundle a raw value tells the capability that accepts it. -/
theorem Unambiguous.eq_of_accepts (unambiguous : bundle.Unambiguous) (raw : v.isNode = false)
    {c d : Capability} (hc : c ∈ bundle.capabilities) (hd : d ∈ bundle.capabilities)
    (hcv : c.accepts v = true) (hdv : d.accepts v = true) : c = d := by
  have : Std.Symm fun c d : Capability =>
      ∀ v : Value, v.isNode = false → ¬(c.accepts v = true ∧ d.accepts v = true) :=
    ⟨fun c d h v hv hboth => h v hv hboth.symm⟩
  by_contra hne
  exact unambiguous.forall hc hd hne v raw ⟨hcv, hdv⟩

/-- A conversion by the capability of a type is an offer at that type. -/
theorem Converts.offers (h : bundle.Converts v type n) : bundle.Offers v type n := by
  obtain ⟨c, text, hpick, htype, hwrites, hn⟩ := h
  refine ⟨c, ?_, htype, text, hwrites, hn⟩
  unfold pick? at hpick
  split at hpick
  · exact List.mem_of_find?_eq_some hpick
  · exact List.mem_of_find?_eq_some hpick

/-- So is a conversion by the first capability that accepts the value. -/
theorem ConvertsFirst.offers (h : bundle.ConvertsFirst v type n) : bundle.Offers v type n := by
  obtain ⟨c, text, hfind, htype, hwrites, hn⟩ := h
  exact ⟨c, List.mem_of_find?_eq_some hfind, htype, text, hwrites, hn⟩

/-- With a capability for each type and none for a value twice, every offer is the conversion at its
type. -/
theorem Offers.converts (distinct : bundle.types.Nodup) (unambiguous : bundle.Unambiguous)
    (raw : v.isNode = false) (h : bundle.Offers v type n) : bundle.Converts v type n := by
  obtain ⟨c, hc, rfl, text, hwrites, hn⟩ := h
  refine ⟨c, text, ?_, rfl, hwrites, hn⟩
  unfold pick?
  split
  · refine (find?_eq_some_iff_of_unique ?_).mpr ⟨hc, hwrites.accepts⟩
    exact fun a ha b hb hav hbv => unambiguous.eq_of_accepts raw ha hb hav hbv
  · refine (find?_eq_some_iff_of_unique ?_).mpr ⟨hc, decide_eq_true rfl⟩
    intro a ha b hb hat hbt
    exact eq_of_type_eq distinct ha hb ((of_decide_eq_true hat).trans (of_decide_eq_true hbt).symm)

/-- If no value is accepted twice, every offer is the conversion by the first that accepts. -/
theorem Offers.convertsFirst (unambiguous : bundle.Unambiguous) (raw : v.isNode = false)
    (h : bundle.Offers v type n) : bundle.ConvertsFirst v type n := by
  obtain ⟨c, hc, rfl, text, hwrites, hn⟩ := h
  refine ⟨c, text, (find?_eq_some_iff_of_unique ?_).mpr ⟨hc, hwrites.accepts⟩, rfl, hwrites, hn⟩
  exact fun a ha b hb hav hbv => unambiguous.eq_of_accepts raw ha hb hav hbv

/-- Without ambiguities it does not matter which capability an operand is converted by. -/
theorem Unambiguous.equate_eq_ok_iff (unambiguous : bundle.Unambiguous)
    (distinct : bundle.types.Nodup) :
    (bundle.equate left right).result = .ok w ↔
      ∃ type l r, Value.StandsFor bundle.Offers (Value.turned left right).1 type l ∧
        Value.StandsFor bundle.Offers (Value.turned left right).2 type r ∧
        w = .node (Node.comparison l r) := by
  rw [Bundle.equate_eq_ok_iff]
  constructor
  · rintro ⟨type, l, r, hl, hr, rfl⟩
    exact ⟨type, l, r, hl.imp fun _ h => h.offers, hr.imp fun _ h => h.offers, rfl⟩
  · rintro ⟨type, l, r, hl, hr, rfl⟩
    exact ⟨type, l, r, hl.imp fun raw h => h.convertsFirst unambiguous raw,
      hr.imp fun raw h => h.converts distinct unambiguous raw, rfl⟩

end Bundle

namespace AdapterSet

variable {bundle : Bundle} {v left right w : Value} {type : SemanticType} {n m : Node}

/-- A node finds an adapter exactly at its own type, if the adapters lead there at all. -/
theorem isSome_find?_node_iff (h : n.type? = some type) {other : SemanticType} :
    ((ofBundle bundle).find? (.node n) other).isSome = true ↔
      type = other ∧ other ∈ bundle.reachable := by
  rw [find?_ofBundle_node bundle h]
  split <;> simp_all

/-- A raw value finds an adapter at the types of the capabilities that accept it. -/
theorem isSome_find?_raw_iff (raw : v.isNode = false) :
    ((ofBundle bundle).find? v type).isSome = true ↔
      ∃ c ∈ bundle.capabilities, c.type = type ∧ c.accepts v = true := by
  simp [find?_ofBundle_raw bundle raw]

/-- The adapters of a bundle take a node to its own type, if any adapter leads there. -/
theorem brings_node_iff :
    (ofBundle bundle).Brings (.node n) type m ↔
      (n.type? = some type ∧ m = n) ∧ type ∈ bundle.reachable := by
  constructor
  · intro h
    obtain ⟨own, hown⟩ := Option.isSome_iff_exists.mp (h.typed n rfl)
    obtain ⟨a, ha, hgives⟩ := h
    rw [find?_ofBundle_node bundle hown] at ha
    split at ha
    · rename_i hreach
      obtain ⟨rfl, hmem⟩ := hreach
      cases ha
      exact ⟨⟨hown, (Value.node.inj hgives).symm⟩, hmem⟩
    · cases ha
  · rintro ⟨⟨hown, rfl⟩, hmem⟩
    exact ⟨.identity type, by simp [find?_ofBundle_node bundle hown, hmem], rfl⟩

/-- The adapters of a bundle take a raw value to a type exactly if a capability offers it there. -/
theorem brings_raw_iff (distinct : bundle.types.Nodup) (raw : v.isNode = false) :
    (ofBundle bundle).Brings v type n ↔ bundle.Offers v type n := by
  simp only [Brings, find?_ofBundle_raw bundle raw, Option.map_eq_some_iff]
  constructor
  · rintro ⟨_, ⟨c, hfind, rfl⟩, text, hwrites, rfl⟩
    have hc : c.type = type ∧ c.accepts v = true := by simpa using List.find?_some hfind
    obtain ⟨rfl, -⟩ := hc
    exact ⟨c, List.mem_of_find?_eq_some hfind, rfl, text, hwrites, rfl⟩
  · rintro ⟨c, hc, rfl, text, hwrites, rfl⟩
    refine ⟨.raw c, ⟨c, (find?_eq_some_iff_of_unique ?_).mpr ⟨hc, ?_⟩, rfl⟩, text, hwrites, rfl⟩
    · intro a ha b hb hap hbp
      simp only [Bool.and_eq_true, decide_eq_true_eq] at hap hbp
      exact Bundle.eq_of_type_eq distinct ha hb (hap.1.trans hbp.1.symm)
    · simp [hwrites.accepts]

/-- What a bundle offers is offered at a type within reach. -/
theorem reachable_of_offers (h : bundle.Offers v type n) : type ∈ bundle.reachable := by
  obtain ⟨c, hc, htype, -⟩ := h
  exact List.mem_append_left _ (List.mem_map.mpr ⟨c, hc, htype⟩)

/-- Through the adapters of a bundle an operand becomes what it stands for, at the types within
reach. -/
theorem brings_iff (distinct : bundle.types.Nodup) :
    (ofBundle bundle).Brings v type n ↔
      Value.StandsFor bundle.Offers v type n ∧ type ∈ bundle.reachable := by
  cases hv : v.isNode with
  | true =>
    obtain ⟨m, rfl⟩ := Value.eq_node_of_isNode hv
    rw [brings_node_iff, Value.standsFor_node_iff]
  | false =>
    rw [brings_raw_iff distinct hv, Value.standsFor_raw_iff hv]
    exact ⟨fun h => ⟨h, reachable_of_offers h⟩, fun h => h.1⟩

/-- A node is compared at its own type or nowhere. -/
theorem find?_targetTypes_node (hn : n.type? = some type) (hreach : type ∈ bundle.reachable)
    (h : (ofBundle bundle).meet (.node n) v type = true) :
    (ofBundle bundle).targetTypes.find? ((ofBundle bundle).meet (.node n) v) = some type := by
  rw [find?_targetTypes_ofBundle]
  refine (find?_eq_some_iff_of_unique ?_).mpr ⟨hreach, h⟩
  have own {other : SemanticType} (hmeet : (ofBundle bundle).meet (.node n) v other = true) :
      type = other := by
    simp only [meet, Bool.and_eq_true, isSome_find?_node_iff hn] at hmeet
    exact hmeet.1.1
  exact fun a _ b _ ha hb => (own ha).symm.trans (own hb)

/-- A raw value is first compared at the type of the first capability that accepts it, if it is
compared there at all. -/
theorem find?_targetTypes_first (distinct : bundle.types.Nodup) (raw : left.isNode = false)
    (hfirst : bundle.ConvertsFirst left type n) (h : (ofBundle bundle).meet left right type = true) :
    (ofBundle bundle).targetTypes.find? ((ofBundle bundle).meet left right) = some type := by
  obtain ⟨c, text, hfind, rfl, -, -⟩ := hfirst
  have hc : c ∈ bundle.capabilities := List.mem_of_find?_eq_some hfind
  have hmeets :
      bundle.capabilities.find? (fun d => (ofBundle bundle).meet left right d.type) = some c := by
    refine find?_of_sharper hfind h ?_
    intro d hd hmeet
    simp only [meet, Bool.and_eq_true, isSome_find?_raw_iff raw] at hmeet
    obtain ⟨⟨e, he, htype, haccepts⟩, -⟩ := hmeet
    rwa [← Bundle.eq_of_type_eq distinct he hd htype]
  rw [find?_targetTypes_ofBundle, Bundle.reachable, List.find?_append, Bundle.types, List.find?_map,
    Function.comp_def, hmeets]
  rfl

/-- A comparison over a bundle is the same comparison over its adapters, provided that two nodes
are compared at a type that adapters lead to. -/
theorem equate_of_bundle_equate (distinct : bundle.types.Nodup)
    (known : ∀ l r type, left = .node l → right = .node r → l.type? = some type →
      r.type? = some type → type ∈ bundle.reachable)
    (h : (bundle.equate left right).result = .ok w) :
    ((ofBundle bundle).equate left right).result = .ok w := by
  obtain ⟨type, l, r, hl, hr, rfl⟩ := Bundle.equate_eq_ok_iff.mp h
  rw [equate_eq_ok_iff]
  generalize hturned : Value.turned left right = turned at hl hr ⊢
  obtain ⟨first, second⟩ := turned
  have hreach : type ∈ bundle.reachable := by
    cases hl with
    | raw _ h => exact reachable_of_offers h.offers
    | node hlt =>
      cases hr with
      | raw _ h => exact reachable_of_offers h.offers
      | node hrt =>
        obtain ⟨hleft, hright⟩ := Value.eq_of_turned_nodes hturned
        exact known l r type hleft hright hlt hrt
  have bringsLeft := (brings_iff distinct).mpr ⟨hl.imp fun _ h => h.offers, hreach⟩
  have bringsRight := (brings_iff distinct).mpr ⟨hr.imp fun _ h => h.offers, hreach⟩
  have hmeet : (ofBundle bundle).meet first second type = true := by
    simp [meet, bringsLeft.isSome, bringsRight.isSome]
  refine ⟨type, l, r, ?_, bringsLeft, bringsRight, rfl⟩
  cases hl with
  | node hn => exact find?_targetTypes_node hn hreach hmeet
  | raw raw hfirst => exact find?_targetTypes_first distinct raw hfirst hmeet

/-- A comparison over the adapters of a bundle is the same comparison over the bundle, if no value
is accepted twice. -/
theorem bundle_equate_of_equate (distinct : bundle.types.Nodup) (unambiguous : bundle.Unambiguous)
    (h : ((ofBundle bundle).equate left right).result = .ok w) :
    (bundle.equate left right).result = .ok w := by
  obtain ⟨type, l, r, -, hl, hr, rfl⟩ := equate_eq_ok_iff.mp h
  exact (unambiguous.equate_eq_ok_iff distinct).mpr
    ⟨type, l, r, ((brings_iff distinct).mp hl).1, ((brings_iff distinct).mp hr).1, rfl⟩

/-- Two nodes are only ever compared through adapters at a type that adapters lead to. -/
theorem mem_reachable_of_equate (h : ((ofBundle bundle).equate (.node n) right).result = .ok w)
    (hn : n.type? = some type) : type ∈ bundle.reachable := by
  obtain ⟨other, l, r, -, hl, -, -⟩ := equate_eq_ok_iff.mp h
  rw [Value.turned_node (Value.isNode_node n)] at hl
  obtain ⟨⟨hother, -⟩, hmem⟩ := brings_node_iff.mp hl
  rwa [Option.some.inj (hn.symm.trans hother)]

/-- A conjunction of filters is the same through the adapters of any bundle. -/
theorem conjoin_of_bundle_conjoin (h : (bundle.conjoin left right).result = .ok w) :
    ((ofBundle bundle).conjoin left right).result = .ok w := by
  obtain ⟨l, r, rfl, rfl, hl, hr, rfl⟩ := Node.conjoin_eq_ok_iff.mp h
  have hmem : SemanticType.bool ∈ bundle.reachable := by simp [Bundle.reachable]
  exact conjoin_eq_ok_iff.mpr
    ⟨l, r, brings_node_iff.mpr ⟨⟨hl, rfl⟩, hmem⟩, brings_node_iff.mpr ⟨⟨hr, rfl⟩, hmem⟩, rfl⟩

/-- Without a capability for the truth type only filters are joined through adapters. -/
theorem bundle_conjoin_of_conjoin (noBool : SemanticType.bool ∉ bundle.types)
    (h : ((ofBundle bundle).conjoin left right).result = .ok w) :
    (bundle.conjoin left right).result = .ok w := by
  have filter {v : Value} {n : Node} (h : (ofBundle bundle).Brings v .bool n) :
      v = .node n ∧ n.type? = some .bool := by
    cases hv : v.isNode with
    | true =>
      obtain ⟨m, rfl⟩ := Value.eq_node_of_isNode hv
      obtain ⟨⟨hm, rfl⟩, -⟩ := brings_node_iff.mp h
      exact ⟨rfl, hm⟩
    | false =>
      obtain ⟨c, hc, htype, -⟩ := (isSome_find?_raw_iff hv).mp h.isSome
      exact absurd (List.mem_map.mpr ⟨c, hc, htype⟩) noBool
  obtain ⟨l, r, hl, hr, rfl⟩ := conjoin_eq_ok_iff.mp h
  obtain ⟨rfl, hlt⟩ := filter hl
  obtain ⟨rfl, hrt⟩ := filter hr
  exact Node.conjoin_eq_ok_iff.mpr ⟨l, r, rfl, rfl, hlt, hrt, rfl⟩

end AdapterSet

end FilterAlgebra
