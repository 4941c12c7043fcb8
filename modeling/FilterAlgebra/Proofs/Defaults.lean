import FilterAlgebra.Blueprint
import FilterAlgebra.Proofs.Agreement
import FilterAlgebra.Proofs.Numerals

/-!
# The default bundle

The bundle that is active unless another is given writes integers and texts. Its two
capabilities serve distinct types and never accept the same value, so all results about
bundles without ambiguities apply to it. `offers_default_iff` says what a raw value is
written as: an integer as its numeral, as long as that is not too long, and a text in
quoted form.
-/

set_option autoImplicit false

namespace FilterAlgebra

namespace StandardCapability

variable {style : QuoteStyle} {v : Value} {text : String}

/-- The capability for integers accepts the integers in all their forms. -/
theorem integer_accepts_iff : integer.toCapability.accepts v = true ↔ v.integer?.isSome = true := by
  cases h : v.integer? <;>
    simp [toCapability, Capability.accepts, validate, Validation.strictInteger, h, Except.isOk,
      Except.toBool, Functor.map, Except.map]

/-- The capability for texts accepts the texts in all their forms. -/
theorem text_accepts_iff :
    (StandardCapability.text style).toCapability.accepts v = true ↔ v.text?.isSome = true := by
  cases h : v.text? <;>
    simp [toCapability, Capability.accepts, validate, Validation.strictText, h, Except.isOk,
      Except.toBool, Functor.map, Except.map]

/-- An integer is written as its numeral, unless that would be too long. -/
theorem integer_writes_iff :
    integer.toCapability.Writes v text ↔
      ∃ k, v.integer? = some k ∧ (Nat.toDigits 10 k.natAbs).length ≤ Numeral.maxDigits ∧
        text = Numeral.decimal k := by
  have written {k : Int} : integer.format (.int k) = .ok text ↔ Numeral.decimal? k = some text := by
    simp only [format, Value.display, Value.inspect, Numeral.written]
    cases Numeral.decimal? k <;> simp [Fault.ofOption]
  unfold Capability.Writes toCapability
  cases h : v.integer? with
  | none => simp [validate, Validation.strictInteger, h, Functor.map, Except.map]
  | some k =>
    simp [validate, Validation.strictInteger, h, Functor.map, Except.map, written,
      Numeral.decimal?_eq_some_iff]

/-- A text is written between marks. -/
theorem text_writes_iff :
    (StandardCapability.text style).toCapability.Writes v text ↔
      ∃ s, v.text? = some s ∧ text = style.quote s := by
  have written {s : String} :
      (StandardCapability.text style).format (.str s) = .ok (style.quote s) := rfl
  unfold Capability.Writes toCapability
  cases h : v.text? with
  | none => simp [validate, Validation.strictText, h, Functor.map, Except.map]
  | some s =>
    simp only [validate, Validation.strictText, h, Functor.map, Except.map, Except.ok.injEq,
      exists_eq_left', written, Option.some.injEq]
    exact eq_comm

end StandardCapability

/-- No text is an integer. -/
theorem Value.integer?_of_text? {v : Value} {s : String} (h : v.text? = some s) :
    v.integer? = Option.none := by
  unfold text? at h
  unfold integer?
  split at h <;> simp_all

namespace Bundle

variable {style : QuoteStyle} {v : Value} {type : SemanticType} {n : Node}

/-- The default capabilities serve integers and texts. -/
@[simp] theorem types_default (style : QuoteStyle) :
    (Bundle.default style).types = [.int, .str] := rfl

/-- Through adapters the default capabilities reach the truth type besides. -/
@[simp] theorem reachable_default (style : QuoteStyle) :
    (Bundle.default style).reachable = [.int, .str, .bool] := rfl

/-- Each default capability has a type of its own. -/
theorem distinct_default (style : QuoteStyle) : (Bundle.default style).types.Nodup := by
  simp

/-- No value is an integer and a text. -/
theorem unambiguous_default (style : QuoteStyle) : (Bundle.default style).Unambiguous := by
  have apart (v : Value) : ¬(StandardCapability.integer.toCapability.accepts v = true ∧
      (StandardCapability.text style).toCapability.accepts v = true) := by
    rw [StandardCapability.integer_accepts_iff, StandardCapability.text_accepts_iff]
    rintro ⟨hinteger, htext⟩
    obtain ⟨s, hs⟩ := Option.isSome_iff_exists.mp htext
    simp [Value.integer?_of_text? hs] at hinteger
  exact List.pairwise_pair.mpr fun v _ => apart v

/-- No default capability makes literals of the truth type. -/
theorem bool_notMem_default (style : QuoteStyle) :
    SemanticType.bool ∉ (Bundle.default style).types := by
  simp

/-- A raw value is written as an integer or as a text, if it is one. -/
theorem offers_default_iff :
    (Bundle.default style).Offers v type n ↔
      (∃ k, v.integer? = some k ∧ (Nat.toDigits 10 k.natAbs).length ≤ Numeral.maxDigits ∧
        type = .int ∧ n = .literal .int (Numeral.decimal k)) ∨
      ∃ s, v.text? = some s ∧ type = .str ∧ n = .literal .str (style.quote s) := by
  unfold Offers
  simp only [Bundle.default, ofStandard, defaultCapabilities, List.map_cons, List.map_nil,
    List.mem_cons, List.not_mem_nil, or_false, exists_eq_or_imp, exists_eq_left,
    StandardCapability.integer_writes_iff, StandardCapability.text_writes_iff]
  constructor
  · rintro (⟨rfl, _, ⟨k, hk, hdigits, rfl⟩, rfl⟩ | ⟨rfl, _, ⟨s, hs, rfl⟩, rfl⟩)
    · exact .inl ⟨k, hk, hdigits, rfl, rfl⟩
    · exact .inr ⟨s, hs, rfl, rfl⟩
  · rintro (⟨k, hk, hdigits, rfl, rfl⟩ | ⟨s, hs, rfl, rfl⟩)
    · exact .inl ⟨rfl, _, ⟨k, hk, hdigits, rfl⟩, rfl⟩
    · exact .inr ⟨rfl, _, ⟨s, hs, rfl⟩, rfl⟩

/-- A comparison over the default bundle is that of what its operands stand for at one type. -/
theorem equate_default_eq_ok_iff {left right w : Value} :
    ((Bundle.default style).equate left right).result = .ok w ↔
      ∃ type l r, Value.StandsFor (Bundle.default style).Offers (Value.turned left right).1 type l ∧
        Value.StandsFor (Bundle.default style).Offers (Value.turned left right).2 type r ∧
        w = .node (Node.comparison l r) :=
  (unambiguous_default style).equate_eq_ok_iff (distinct_default style)

end Bundle

end FilterAlgebra
