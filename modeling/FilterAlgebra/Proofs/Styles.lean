import FilterAlgebra.Proofs.Quoting
import FilterAlgebra.Proofs.Restyling
import FilterAlgebra.Proofs.Typing

/-!
# What the style of texts decides

A style says how texts are quoted, and nothing else. The default bundles in two styles are
restyled forms of each other, so a blueprint is evaluated alike over them, join by join.
`Blueprint.style_decides_quotes` is the main result: a blueprint is built in both styles or
refused in both with the same message, and the two filters differ in quoted texts only.
-/

set_option autoImplicit false

namespace FilterAlgebra

open Traced (Alike)

namespace Capability

variable {texts : List String} {style other : QuoteStyle} {v w : Value} {c d : Capability}

/-- A capability of another style rejects a restyled value alike. -/
theorem reject_alike {R : Node → Node → Prop} (h : v.Restyled texts style other w)
    (type : d.type = c.type) (issues : List Issue) :
    Alike R (c.reject v issues) (d.reject w issues) := by
  unfold reject
  simp only [type, h.className]
  apply (Traced.Alike.ofFault h.inspect).bind
  intro _ _ _
  apply (Alike.emit trivial).bind (R := fun _ _ => True)
  intro _ _ _
  exact Alike.after _ fun _ => Alike.refuse

/-- Capabilities of one type with one test differ in style only if they do so in what they write. -/
theorem restyled_of_literals (type : d.type = c.type)
    (validate : ∀ {v w : Value}, v.Restyled texts style other w → d.validate w = c.validate v)
    (literals : ∀ {v w plain : Value}, v.Restyled texts style other w → c.validate v = .ok plain →
      Alike (fun n m => Value.Restyled texts style other (.node n) (.node m))
        (Traced.ofFault (c.literal plain)) (Traced.ofFault (d.literal plain))) :
    c.Restyled texts style other d where
  type := type
  accepts h := by rw [accepts, accepts, validate h]
  asExpression {v w} h := by
    unfold Capability.asExpression
    rw [validate h]
    cases hpass : c.validate v with
    | ok plain => exact literals h hpass
    | error issues => exact reject_alike h type issues

end Capability

namespace StandardCapability

/-- The capability for integers has no style to be changed. -/
theorem restyled_integer (texts : List String) (style other : QuoteStyle) :
    integer.toCapability.Restyled texts style other integer.toCapability := by
  apply Capability.restyled_of_literals rfl
  · intro v w h
    simp only [toCapability, validate, Validation.strictInteger, h.integer?]
  · intro _ _ plain _ _
    exact Alike.refl (fun n => .node n) _

/-- The capability for texts in another style writes the same texts between other marks. -/
theorem restyled_text (texts : List String) (style other : QuoteStyle) :
    (StandardCapability.text style).toCapability.Restyled texts style other
      (StandardCapability.text other).toCapability := by
  have type : (StandardCapability.text other).toCapability.type =
      (StandardCapability.text style).toCapability.type := rfl
  apply Capability.restyled_of_literals type
  · intro v w h
    simp only [toCapability, validate, Validation.strictText, h.text?]
  · intro v w plain h hpass
    simp only [toCapability, validate, Validation.strictText, Functor.map, Except.map] at hpass
    cases hs : v.text? with
    | none => simp [hs] at hpass
    | some s =>
      obtain rfl : plain = .str s := by simpa [hs, eq_comm] using hpass
      exact Alike.pure (.quoted (h.mem_texts hs))

end StandardCapability

/-- The default bundle of another style is the restyled default bundle. -/
theorem Bundle.restyled_default (texts : List String) (style other : QuoteStyle) :
    (Bundle.default style).Restyled texts style other (.default other) :=
  .cons (StandardCapability.restyled_integer texts style other)
    (.cons (StandardCapability.restyled_text texts style other) .nil)

/-- Joins take restyled operands to runs that end alike. -/
structure Operators.Restyled (texts : List String) (style other : QuoteStyle)
    (operators operators' : Operators) : Prop where
  equate : ∀ {left left' right right' : Value}, left.Restyled texts style other left' →
    right.Restyled texts style other right' →
    Alike (Value.Restyled texts style other) (operators.equate left right)
      (operators'.equate left' right')
  conjoin : ∀ {left left' right right' : Value}, left.Restyled texts style other left' →
    right.Restyled texts style other right' →
    Alike (Value.Restyled texts style other) (operators.conjoin left right)
      (operators'.conjoin left' right')

/-- The operators of the default bundle are restyled with it. -/
theorem Bundle.restyled_operators_default (texts : List String) (style other : QuoteStyle) :
    (Bundle.default style).operators.Restyled texts style other (Bundle.default other).operators where
  equate hl hr := (Bundle.restyled_default texts style other).equate hl hr
  conjoin hl hr := Operands.conjoin_alike hl hr

/-- The operators of the default adapters are restyled with them. -/
theorem AdapterSet.restyled_operators_default (texts : List String) (style other : QuoteStyle) :
    (ofBundle (.default style)).operators.Restyled texts style other
      (ofBundle (.default other)).operators where
  equate hl hr := (restyled_ofBundle (Bundle.restyled_default texts style other)).equate hl hr
  conjoin hl hr := (restyled_ofBundle (Bundle.restyled_default texts style other)).conjoin hl hr

/-- Values that differ in quoted texts only are the same if those texts are quoted alike. -/
theorem Value.Restyled.eq_of_same_quotes {texts : List String} {style other : QuoteStyle} {v w : Value}
    (h : v.Restyled texts style other w) (same : ∀ s ∈ texts, style.quote s = other.quote s) :
    v = w := by
  induction h with
  | node | raw => rfl
  | quoted among => rw [same _ among]
  | join sign _ _ ihl ihr => rw [ihl, ihr]

namespace Blueprint

/-- The texts among the raw operands of a blueprint. -/
def texts : Blueprint → List String
  | operand v => v.text?.toList
  | equality left right | conjunction left right => left.texts ++ right.texts

/-- Two filters are what a blueprint stands for in two styles, and differ only in how its own texts are
quoted. -/
structure StyledAs (t : Blueprint) (style other : QuoteStyle) (v w : Value) : Prop where
  first : v = t.elaborate style
  second : w = t.elaborate other
  restyled : v.Restyled t.texts style other w

variable {style other : QuoteStyle}

/-- A blueprint is evaluated alike by joins that differ in style only. -/
theorem eval_alike {texts : List String} {operators operators' : Operators}
    (h : operators.Restyled texts style other operators') (t : Blueprint)
    (among : ∀ s ∈ t.texts, s ∈ texts) :
    Alike (Value.Restyled texts style other) (t.eval operators) (t.eval operators') := by
  induction t with
  | operand v =>
    cases raw : v.isNode with
    | true =>
      obtain ⟨n, rfl⟩ := Value.eq_node_of_isNode raw
      exact Alike.pure (.node n)
    | false => exact Alike.pure (.raw raw fun s hs => among s (by simp [Blueprint.texts, hs]))
  | equality left right ihl ihr =>
    simp only [Blueprint.texts, List.mem_append] at among
    apply (ihl fun s hs => among s (.inl hs)).bind
    intro _ _ hl
    apply (ihr fun s hs => among s (.inr hs)).bind
    intro _ _ hr
    exact h.equate hl hr
  | conjunction left right ihl ihr =>
    simp only [Blueprint.texts, List.mem_append] at among
    apply (ihl fun s hs => among s (.inl hs)).bind
    intro _ _ hl
    apply (ihr fun s hs => among s (.inr hs)).bind
    intro _ _ hr
    exact h.conjoin hl hr

/-- The same blueprint is built alike in two styles. -/
theorem build_alike (style other : QuoteStyle) (t : Blueprint) :
    Alike (Value.Restyled t.texts style other) (t.build (.default style)) (t.build (.default other)) :=
  Operands.buildFilter_alike
    (eval_alike (Bundle.restyled_operators_default t.texts style other) t fun _ hs => hs)

/-- The same blueprint is built alike over adapters in two styles. -/
theorem buildUnified_alike (style other : QuoteStyle) (t : Blueprint) :
    Alike (Value.Restyled t.texts style other) (t.buildUnified (.default style))
      (t.buildUnified (.default other)) :=
  Operands.buildFilter_alike
    (eval_alike (AdapterSet.restyled_operators_default t.texts style other) t fun _ hs => hs)

/-- **The style decides how texts are quoted, and nothing else.** In both designs a blueprint over the
default bundle is built in two styles or in none of them. If it is not, the failures are of one
sort and say the same; if it is, the filters are what the blueprint stands for in either style and
differ in its quoted texts only. Where no mark stands in these, it does not matter whether marks are
doubled. -/
theorem style_decides_quotes (style other : QuoteStyle) (t : Blueprint) :
    Alike (t.StyledAs style other) (t.build (.default style)) (t.build (.default other)) ∧
    Alike (t.StyledAs style other) (t.buildUnified (.default style)) (t.buildUnified (.default other)) ∧
    (style.mark = other.mark → (∀ s ∈ t.texts, style.mark.char ∉ s.toList) → ∀ v,
      ((t.build (.default style)).result = .ok v ↔ (t.build (.default other)).result = .ok v) ∧
      ((t.buildUnified (.default style)).result = .ok v ↔
        (t.buildUnified (.default other)).result = .ok v)) := by
  refine ⟨?_, ?_, ?_⟩
  · apply (build_alike style other t).of_results
    intro v w hv hw h
    exact ⟨(build_default_eq_ok_iff.mp hv).2.2, (build_default_eq_ok_iff.mp hw).2.2, h⟩
  · apply (buildUnified_alike style other t).of_results
    intro v w hv hw h
    have hv := (buildUnified_default_eq_ok_iff.mp hv).1
    have hw := (buildUnified_default_eq_ok_iff.mp hw).1
    exact ⟨(build_default_eq_ok_iff.mp hv).2.2, (build_default_eq_ok_iff.mp hw).2.2, h⟩
  · intro mark unmarked v
    have same : ∀ s ∈ t.texts, style.quote s = other.quote s := by
      intro s hs
      exact QuoteStyle.quote_eq_of_notMem mark (unmarked s hs)
    constructor
    · exact (build_alike style other t).result_eq_ok_iff fun _ _ h => h.eq_of_same_quotes same
    · exact (buildUnified_alike style other t).result_eq_ok_iff fun _ _ h => h.eq_of_same_quotes same

/-- A text without marks on the left of a property, once with doubled marks and once without. -/
theorem style_decides_quotes_of_unmarked :
    let name := Node.property .text (.plain "name")
    let t := equality (operand (.str "ann")) (operand (.node name))
    let v := Value.node (name.comparison (.literal .str (QuoteStyle.quote {} "ann")))
    (t.build (.default { doubled := true })).result = .ok v ∧
      (t.buildUnified (.default { doubled := true })).result = .ok v := by
  intro name t v
  have unmarked : ∀ s ∈ t.texts, QuoteMark.single.char ∉ s.toList := by
    simp [t, texts, Value.text?, Value.held, Text.content, QuoteMark.char]
  obtain ⟨plain, unified⟩ := (style_decides_quotes {} { doubled := true } t).2.2 rfl unmarked v
  exact ⟨plain.mp rfl, unified.mp rfl⟩

end Blueprint

end FilterAlgebra
