import FilterAlgebra.Proofs.Defaults

/-!
# Comparing two raw operands

That one capability can convert both of two raw operands does not mean that they are compared.
A bundle takes the left operand to the first capability that accepts it and the right one to
the first of the same type, whether or not that one accepts it
(`Bundle.equate_raws_eq_ok_iff`). The adapters of a bundle look for a type at which each
operand is accepted, and find one wherever a capability accepts both, but they convert by the
first capability of that type that accepts an operand, whether or not it can write it
(`AdapterSet.equate_raws_eq_ok_iff`). `Bundle.raws_compared_by_picks` is the main result; among
capabilities of distinct types that never accept the same value, one that converts both
operands is always the one that is picked.
-/

set_option autoImplicit false

namespace FilterAlgebra

namespace Bundle

variable {bundle : Bundle} {left right v w : Value} {type : SemanticType} {n : Node}

/-- The first capability of a type that accepts a value. -/
def serving? (bundle : Bundle) (v : Value) (type : SemanticType) : Option Capability :=
  bundle.capabilities.find? fun c => c.type = type && c.accepts v

/-- The first type at which each of two values is accepted by some capability. -/
def common? (bundle : Bundle) (left right : Value) : Option SemanticType :=
  bundle.types.find? fun type =>
    (bundle.serving? left type).isSome && (bundle.serving? right type).isSome

/-- The capability that serves a value at a type is one of the bundle, of the type, and accepts the
value. -/
theorem serving?_fits {c : Capability} (h : bundle.serving? v type = some c) :
    c ∈ bundle.capabilities ∧ c.type = type ∧ c.accepts v = true :=
  ⟨List.mem_of_find?_eq_some h, by simpa using List.find?_some h⟩

/-- Two values have the same common type in either order. -/
theorem common?_comm (bundle : Bundle) (left right : Value) :
    bundle.common? right left = bundle.common? left right := by
  simp only [common?, Bool.and_comm]

/-- A value is only served at types of the bundle. -/
theorem mem_types_of_serving? (h : (bundle.serving? v type).isSome = true) : type ∈ bundle.types := by
  obtain ⟨c, hc⟩ := Option.isSome_iff_exists.mp h
  obtain ⟨hmem, htype, -⟩ := serving?_fits hc
  exact List.mem_map.mpr ⟨c, hmem, htype⟩

/-- A value is served at the type of every capability that accepts it. -/
theorem isSome_serving? {c : Capability} (hc : c ∈ bundle.capabilities) (h : c.accepts v = true) :
    (bundle.serving? v c.type).isSome = true := by
  simp only [serving?, List.find?_isSome]
  exact ⟨c, hc, by simp [h]⟩

/-- Two values that one capability accepts have a common type. -/
theorem exists_common? {c : Capability} (hc : c ∈ bundle.capabilities)
    (hl : c.accepts left = true) (hr : c.accepts right = true) :
    ∃ type, bundle.common? left right = some type := by
  rw [← Option.isSome_iff_exists, common?, List.find?_isSome]
  refine ⟨c.type, List.mem_map.mpr ⟨c, hc, rfl⟩, ?_⟩
  simp [isSome_serving? hc hl, isSome_serving? hc hr]

/-- Over a bundle two raw operands are compared exactly if the first capability that accepts the left
one writes it, and the capability that is picked for the right one at that type writes that. -/
theorem equate_raws_eq_ok_iff (rawLeft : left.isNode = false) (rawRight : right.isNode = false) :
    (bundle.equate left right).result = .ok w ↔
      ∃ c d a b, bundle.capabilities.find? (·.accepts left) = some c ∧
        bundle.pick? right c.type = some d ∧ d.type = c.type ∧
        c.Writes left a ∧ d.Writes right b ∧
        w = .node ((Node.literal c.type a).comparison (.literal c.type b)) := by
  rw [equate_eq_ok_iff, Value.turned_raws rawRight]
  simp only [Value.standsFor_raw_iff rawLeft, Value.standsFor_raw_iff rawRight]
  constructor
  · rintro ⟨_, _, _, ⟨c, a, hfind, rfl, ha, rfl⟩, ⟨d, b, hpick, hd, hb, rfl⟩, rfl⟩
    exact ⟨c, d, a, b, hfind, hpick, hd, ha, hb, rfl⟩
  · rintro ⟨c, d, a, b, hfind, hpick, hd, ha, hb, rfl⟩
    exact ⟨c.type, _, _, ⟨c, a, hfind, rfl, ha, rfl⟩, ⟨d, b, hpick, hd, hb, rfl⟩, rfl⟩

end Bundle

namespace AdapterSet

variable {bundle : Bundle} {left right v w : Value} {type : SemanticType} {n : Node}

/-- A raw value finds the raw adapter of the capability that serves it. -/
theorem find?_ofBundle_serving (raw : v.isNode = false) (type : SemanticType) :
    (ofBundle bundle).find? v type = (bundle.serving? v type).map .raw :=
  find?_ofBundle_raw bundle raw type

/-- The adapters of a bundle compare raw operands at the first type at which both are accepted. -/
theorem find?_targetTypes_raws (rawLeft : left.isNode = false) (rawRight : right.isNode = false) :
    (ofBundle bundle).targetTypes.find? ((ofBundle bundle).meet left right) =
      bundle.common? left right := by
  have meets (type : SemanticType) : (ofBundle bundle).meet left right type =
      ((bundle.serving? left type).isSome && (bundle.serving? right type).isSome) := by
    simp only [meet, find?_ofBundle_serving rawLeft, find?_ofBundle_serving rawRight,
      Option.isSome_map]
  rw [find?_targetTypes_ofBundle, Bundle.reachable, List.find?_append, funext meets,
    ← Bundle.common?]
  cases h : bundle.common? left right with
  | some type => rfl
  | none =>
    -- at the truth type raw operands meet only if a capability serves it
    rw [Option.none_or, List.find?_eq_none]
    intro type _ hmeet
    obtain ⟨hleft, -⟩ := Bool.and_eq_true_iff.mp hmeet
    exact List.find?_eq_none.mp h type (Bundle.mem_types_of_serving? hleft) hmeet

/-- Adapters bring a raw value to the literal that the capability serving it writes. -/
theorem brings_raw_iff_serving (raw : v.isNode = false) :
    (ofBundle bundle).Brings v type n ↔
      ∃ c text, bundle.serving? v type = some c ∧ c.Writes v text ∧ n = .literal type text := by
  simp only [Brings, find?_ofBundle_serving raw, Option.map_eq_some_iff]
  constructor
  · rintro ⟨_, ⟨c, hc, rfl⟩, text, hwrites, rfl⟩
    obtain ⟨-, htype, -⟩ := Bundle.serving?_fits hc
    exact ⟨c, text, hc, hwrites, by rw [htype]⟩
  · rintro ⟨c, text, hc, hwrites, rfl⟩
    obtain ⟨-, htype, -⟩ := Bundle.serving?_fits hc
    exact ⟨.raw c, ⟨c, hc, rfl⟩, text, hwrites, by rw [htype]⟩

/-- Through the adapters of a bundle two raw operands are compared exactly if, at the first type at
which both are accepted, the first capability that accepts an operand writes it. -/
theorem equate_raws_eq_ok_iff (rawLeft : left.isNode = false) (rawRight : right.isNode = false) :
    ((ofBundle bundle).equate left right).result = .ok w ↔
      ∃ type c d a b, bundle.common? left right = some type ∧
        bundle.serving? left type = some c ∧ bundle.serving? right type = some d ∧
        c.Writes left a ∧ d.Writes right b ∧
        w = .node ((Node.literal type a).comparison (.literal type b)) := by
  rw [equate_eq_ok_iff, Value.turned_raws rawRight]
  simp only [find?_targetTypes_raws rawLeft rawRight, brings_raw_iff_serving rawLeft,
    brings_raw_iff_serving rawRight]
  constructor
  · rintro ⟨type, _, _, hcommon, ⟨c, a, hc, ha, rfl⟩, ⟨d, b, hd, hb, rfl⟩, rfl⟩
    exact ⟨type, c, d, a, b, hcommon, hc, hd, ha, hb, rfl⟩
  · rintro ⟨type, c, d, a, b, hcommon, hc, hd, ha, hb, rfl⟩
    exact ⟨type, _, _, hcommon, ⟨c, a, hc, ha, rfl⟩, ⟨d, b, hd, hb, rfl⟩, rfl⟩

/-- Two raw operands with a type in common are compared, where every capability writes those of them
that it accepts. -/
theorem equate_raws_of_common (rawLeft : left.isNode = false) (rawRight : right.isNode = false)
    (hcommon : bundle.common? left right = some type)
    (writes : ∀ c ∈ bundle.capabilities, (c.accepts left = true → ∃ text, c.Writes left text) ∧
      (c.accepts right = true → ∃ text, c.Writes right text)) :
    ∃ w, ((ofBundle bundle).equate left right).result = .ok w := by
  have met := List.find?_some hcommon
  simp only [Bool.and_eq_true, Option.isSome_iff_exists] at met
  obtain ⟨⟨c, hc⟩, ⟨d, hd⟩⟩ := met
  obtain ⟨hcmem, -, hleft⟩ := Bundle.serving?_fits hc
  obtain ⟨hdmem, -, hright⟩ := Bundle.serving?_fits hd
  obtain ⟨a, ha⟩ := (writes c hcmem).1 hleft
  obtain ⟨b, hb⟩ := (writes d hdmem).2 hright
  exact ⟨_, (equate_raws_eq_ok_iff rawLeft rawRight).mpr
    ⟨type, c, d, a, b, hcommon, hc, hd, ha, hb, rfl⟩⟩

end AdapterSet

namespace Bundle

variable {bundle : Bundle} {left right : Value}

/-- Among capabilities of distinct types of which no two accept the same raw value, one that writes
both operands compares them, with one result in both designs. -/
theorem equate_raws_of_unambiguous (distinct : bundle.types.Nodup) (unambiguous : bundle.Unambiguous)
    (rawLeft : left.isNode = false) (rawRight : right.isNode = false) {c : Capability}
    (hc : c ∈ bundle.capabilities) {a b : String} (ha : c.Writes left a) (hb : c.Writes right b) :
    ∃ w, (bundle.equate left right).result = .ok w ∧
      ((AdapterSet.ofBundle bundle).equate left right).result = .ok w := by
  have compared : (bundle.equate left right).result =
      .ok (.node ((Node.literal c.type a).comparison (.literal c.type b))) := by
    rw [unambiguous.equate_eq_ok_iff distinct, Value.turned_raws rawRight]
    exact ⟨c.type, _, _, .raw rawLeft ⟨c, hc, rfl, a, ha, rfl⟩, .raw rawRight ⟨c, hc, rfl, b, hb, rfl⟩,
      rfl⟩
  refine ⟨_, compared, AdapterSet.equate_of_bundle_equate distinct ?_ compared⟩
  rintro l r type rfl
  simp at rawLeft

/-- **Raw operands are compared by the capabilities that are picked for them.** Over a bundle these
are the first that accepts the left operand and the one that is picked for the right operand at its
type; through adapters they are, at the first type at which both operands are accepted, the first that
accept them. Operands that one capability accepts have such a type, so through adapters they are
compared in both orders where no capability fails to write what it accepts; and in both designs where
capabilities serve distinct types, no two accept the same value, and one writes both operands. -/
theorem raws_compared_by_picks (bundle : Bundle) {left right : Value} (rawLeft : left.isNode = false)
    (rawRight : right.isNode = false) :
    (∀ w, (bundle.equate left right).result = .ok w ↔
      ∃ c d a b, bundle.capabilities.find? (·.accepts left) = some c ∧
        bundle.pick? right c.type = some d ∧ d.type = c.type ∧
        c.Writes left a ∧ d.Writes right b ∧
        w = .node ((Node.literal c.type a).comparison (.literal c.type b))) ∧
    (∀ w, ((AdapterSet.ofBundle bundle).equate left right).result = .ok w ↔
      ∃ type c d a b, bundle.common? left right = some type ∧
        bundle.serving? left type = some c ∧ bundle.serving? right type = some d ∧
        c.Writes left a ∧ d.Writes right b ∧
        w = .node ((Node.literal type a).comparison (.literal type b))) ∧
    ∀ c ∈ bundle.capabilities, c.accepts left = true → c.accepts right = true →
      (∃ type, bundle.common? left right = some type ∧ bundle.common? right left = some type) ∧
      ((∀ d ∈ bundle.capabilities, (d.accepts left = true → ∃ text, d.Writes left text) ∧
          (d.accepts right = true → ∃ text, d.Writes right text)) →
        (∃ w, ((AdapterSet.ofBundle bundle).equate left right).result = .ok w) ∧
          ∃ w, ((AdapterSet.ofBundle bundle).equate right left).result = .ok w) ∧
      (bundle.types.Nodup → bundle.Unambiguous → (∃ a, c.Writes left a) → (∃ b, c.Writes right b) →
        (∃ w, (bundle.equate left right).result = .ok w ∧
          ((AdapterSet.ofBundle bundle).equate left right).result = .ok w) ∧
        ∃ w, (bundle.equate right left).result = .ok w ∧
          ((AdapterSet.ofBundle bundle).equate right left).result = .ok w) := by
  refine ⟨fun w => equate_raws_eq_ok_iff rawLeft rawRight,
    fun w => AdapterSet.equate_raws_eq_ok_iff rawLeft rawRight, ?_⟩
  intro c hc hl hr
  obtain ⟨type, hcommon⟩ := exists_common? hc hl hr
  have swapped : bundle.common? right left = some type := (bundle.common?_comm left right).trans hcommon
  refine ⟨⟨type, hcommon, swapped⟩, ?_, ?_⟩
  · intro writes
    exact ⟨AdapterSet.equate_raws_of_common rawLeft rawRight hcommon writes,
      AdapterSet.equate_raws_of_common rawRight rawLeft swapped fun d hd => (writes d hd).symm⟩
  · rintro distinct unambiguous ⟨a, ha⟩ ⟨b, hb⟩
    exact ⟨equate_raws_of_unambiguous distinct unambiguous rawLeft rawRight hc ha hb,
      equate_raws_of_unambiguous distinct unambiguous rawRight rawLeft hc hb ha⟩

/-- Two short texts are compared by the first capability, a short and a long one only through
adapters. -/
theorem raws_compared_by_picks_of_texts :
    let bundle : Bundle := .ofStandard [.shortText { mark := .double }, .text {}]
    (bundle.equate (.str "ok") (.str "so")).result =
        .ok (.node ((Node.literal .str "\"ok\"").comparison (.literal .str "\"so\""))) ∧
      (∃ w, ((AdapterSet.ofBundle bundle).equate (.str "ok") (.str "fine")).result = .ok w) ∧
      ∃ w, ((AdapterSet.ofBundle bundle).equate (.str "fine") (.str "ok")).result = .ok w := by
  intro bundle
  let short := (StandardCapability.shortText { mark := .double }).toCapability
  let long := (StandardCapability.text {}).toCapability
  have among : long ∈ bundle.capabilities := List.mem_cons_of_mem _ List.mem_cons_self
  have writes : ∀ d ∈ bundle.capabilities,
      (d.accepts (.str "ok") = true → ∃ text, d.Writes (.str "ok") text) ∧
      (d.accepts (.str "fine") = true → ∃ text, d.Writes (.str "fine") text) := by
    intro d hd
    have hd : d = short ∨ d = long := by simpa [bundle, ofStandard] using hd
    have tooLong : short.accepts (.str "fine") = false := rfl
    rcases hd with rfl | rfl
    · exact ⟨fun _ => ⟨_, .str "ok", rfl, rfl⟩, fun h => absurd h (by simp [tooLong])⟩
    · exact ⟨fun _ => ⟨_, .str "ok", rfl, rfl⟩, fun _ => ⟨_, .str "fine", rfl, rfl⟩⟩
  refine ⟨((raws_compared_by_picks bundle rfl rfl).1 _).mpr
    ⟨short, short, _, _, rfl, rfl, rfl, ⟨.str "ok", rfl, rfl⟩, ⟨.str "so", rfl, rfl⟩, rfl⟩, ?_⟩
  exact ((raws_compared_by_picks bundle rfl rfl).2.2 long among rfl rfl).2.1 writes

/-- The capability of integers writes an even and an odd integer, but after that of even integers it
is not picked for the odd one. The hexadecimal capability writes an integer of any size, but after
that of integers it is not picked for a long one. -/
theorem shared_capability_not_picked :
    let integers := StandardCapability.integer.toCapability
    let hexadecimals := StandardCapability.hexInteger.toCapability
    let evensFirst : Bundle := .ofStandard [.evenInteger, .integer]
    let decimalsFirst : Bundle := .ofStandard [.integer, .hexInteger]
    let long := Value.int Numeral.bound
    (integers ∈ evensFirst.capabilities ∧
      (∃ a, integers.Writes (.int 2) a) ∧ (∃ b, integers.Writes (.int 3) b) ∧
      ∀ w, (evensFirst.equate (.int 2) (.int 3)).result ≠ .ok w) ∧
    hexadecimals ∈ decimalsFirst.capabilities ∧ (∃ a, hexadecimals.Writes long a) ∧
      (∀ w, (decimalsFirst.equate long long).result ≠ .ok w) ∧
      ∀ w, ((AdapterSet.ofBundle decimalsFirst).equate long long).result ≠ .ok w := by
  intro integers hexadecimals evensFirst decimalsFirst long
  let evens := StandardCapability.evenInteger.toCapability
  have small (k : Int) (h : (Nat.toDigits 10 k.natAbs).length ≤ Numeral.maxDigits) :
      ∃ a, integers.Writes (.int k) a :=
    ⟨_, StandardCapability.integer_writes_iff.mpr ⟨k, rfl, h, rfl⟩⟩
  have odd (b : String) : ¬evens.Writes (.int 3) b := by
    intro h
    have rejected : evens.accepts (.int 3) = false := rfl
    rw [h.accepts] at rejected
    cases rejected
  have unwritten (a : String) : ¬integers.Writes long a := by
    intro h
    obtain ⟨k, hk, short, -⟩ := StandardCapability.integer_writes_iff.mp h
    obtain rfl : (Numeral.bound : Int) = k := Option.some.inj hk
    exact Numeral.decimal?_eq_none_iff.mp Numeral.decimal?_bound short
  refine ⟨⟨List.mem_cons_of_mem _ List.mem_cons_self, small 2 (by decide), small 3 (by decide), ?_⟩,
    List.mem_cons_of_mem _ List.mem_cons_self, ⟨_, long, rfl, rfl⟩, ?_, ?_⟩
  · intro w h
    obtain ⟨c, d, a, b, hfind, hpick, -, -, hb, -⟩ := (equate_raws_eq_ok_iff rfl rfl).mp h
    obtain rfl : evens = c := Option.some.inj hfind
    obtain rfl : evens = d := Option.some.inj hpick
    exact odd b hb
  · intro w h
    obtain ⟨c, d, a, b, hfind, -, -, ha, -, -⟩ := (equate_raws_eq_ok_iff rfl rfl).mp h
    obtain rfl : integers = c := Option.some.inj hfind
    exact unwritten a ha
  · intro w h
    obtain ⟨type, c, d, a, b, hcommon, hc, -, ha, -, -⟩ :=
      (AdapterSet.equate_raws_eq_ok_iff rfl rfl).mp h
    obtain rfl : SemanticType.int = type := Option.some.inj hcommon
    obtain rfl : integers = c := Option.some.inj hc
    exact unwritten a ha

end Bundle

end FilterAlgebra
