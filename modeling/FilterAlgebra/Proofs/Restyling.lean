import FilterAlgebra.Proofs.Dispatch
import FilterAlgebra.Proofs.Parallel
import Mathlib.Data.List.Forall2

/-!
# Restyled operands

Two values are restyled forms of each other if they differ only in how given texts are quoted
(`Value.Restyled`), and two bundles are if their capabilities write such forms. Joins never
look into the text of a literal. All of them therefore take restyled operands to runs that
end alike, whatever they search for and whatever they refuse: `Bundle.Restyled.equate`,
`AdapterSet.Restyled.equate` and `AdapterSet.Restyled.conjoin` say so.
-/

set_option autoImplicit false

namespace FilterAlgebra

open Traced (Alike)

/-- Two values differ only in how some texts are quoted: nodes and raw values that were given stay as
they are, a literal made of a text is quoted in either style, and joins are compared side by side. -/
inductive Value.Restyled (texts : List String) (style other : QuoteStyle) : Value → Value → Prop
  | node (n : Node) : Restyled texts style other (.node n) (.node n)
  | raw {v : Value} (raw : v.isNode = false) (among : ∀ s, v.text? = some s → s ∈ texts) :
    Restyled texts style other v v
  | quoted {s : String} (among : s ∈ texts) :
    Restyled texts style other (.node (.literal .str (style.quote s)))
      (.node (.literal .str (other.quote s)))
  | join {left right left' right' : Value} (sign : String)
    (hl : Restyled texts style other left left') (hr : Restyled texts style other right right') :
    Restyled texts style other (.node (.binary left sign right .bool))
      (.node (.binary left' sign right' .bool))

/-- A join has an inspection form exactly if its sides have one, and lacks it by their first fault. -/
theorem Node.inspect_join (left right : Value) (sign : String) :
    ((Node.binary left sign right .bool).inspect.map fun _ => ()) =
      (left.inspect.map fun _ => ()) >>= fun _ => right.inspect.map fun _ => () := by
  have named : SemanticType.bool.inspect = .ok "<class 'bool'>" := rfl
  simp only [Node.inspect, named]
  cases left.inspect with
  | error fault => rfl
  | ok shown => cases right.inspect <;> rfl

namespace Value.Restyled

variable {texts : List String} {style other : QuoteStyle} {v w left right left' right' : Value}

/-- A restyled value is a node exactly if the value is one. -/
theorem isNode (h : v.Restyled texts style other w) : w.isNode = v.isNode := by
  cases h <;> rfl

/-- A restyled value is of a class of the same name. -/
theorem className (h : v.Restyled texts style other w) : w.className = v.className := by
  cases h <;> rfl

/-- A restyled value has the same semantic type, or lacks it for the same reason. -/
theorem semanticType (h : v.Restyled texts style other w) : w.semanticType = v.semanticType := by
  cases h <;> rfl

/-- A restyled value is the same integer, if it is one. -/
theorem integer? (h : v.Restyled texts style other w) : w.integer? = v.integer? := by
  cases h <;> rfl

/-- A restyled value is the same text, if it is one. -/
theorem text? (h : v.Restyled texts style other w) : w.text? = v.text? := by
  cases h <;> rfl

/-- A raw value stays as it is when nodes are restyled. -/
theorem eq_of_raw (h : v.Restyled texts style other w) (raw : v.isNode = false) : w = v := by
  cases h with
  | raw => rfl
  | node | quoted | join => simp at raw

/-- A raw text that is compared is one of those that may be quoted. -/
theorem mem_texts (h : v.Restyled texts style other w) {s : String} (hs : v.text? = some s) :
    s ∈ texts := by
  cases h with
  | raw _ among => exact among s hs
  | node | quoted | join => simp [Value.text?, Value.held] at hs

/-- Restyled values have inspection forms together, or lack them by the same fault. -/
theorem inspect (h : v.Restyled texts style other w) :
    (v.inspect.map fun _ => ()) = w.inspect.map fun _ => () := by
  induction h with
  | node | raw => rfl
  | quoted =>
    simp [Value.inspect, Node.inspect, SemanticType.inspect, Bind.bind, Except.bind, pure, Except.pure,
      Except.map]
  | join sign _ _ ihl ihr =>
    rw [Value.inspect, Value.inspect, Node.inspect_join, Node.inspect_join, ihl, ihr]

/-- Restyled operands are taken in the same order. -/
theorem turned (hl : left.Restyled texts style other left') (hr : right.Restyled texts style other right') :
    (Value.turned left right).1.Restyled texts style other (Value.turned left' right').1 ∧
      (Value.turned left right).2.Restyled texts style other (Value.turned left' right').2 := by
  unfold Value.turned
  rw [hl.isNode, hr.isNode]
  split
  · exact ⟨hr, hl⟩
  · exact ⟨hl, hr⟩

end Value.Restyled

section Joins

variable {texts : List String} {style other : QuoteStyle} {v w left right left' right' : Value}

namespace Operands

/-- A restyled operand of a comparison is judged alike. -/
theorem requireNode_alike (h : v.Restyled texts style other w) :
    Alike (fun _ _ => True) (values.requireNode v) (values.requireNode w) := by
  simp only [requireNode, values_isNode, values_className, values_refuse, pure_bind, h.isNode,
    h.className]
  split
  · exact Alike.pure trivial
  · exact Alike.refuse

/-- A restyled operand of a conjunction is judged alike. -/
theorem requireFilter_alike (h : v.Restyled texts style other w) (reason : String → Refusal) :
    Alike (fun _ _ => True) (values.requireFilter reason v) (values.requireFilter reason w) := by
  simp only [requireFilter, values_isNode, values_className, values_typeOf, values_check,
    values_refuse, pure_bind, h.isNode, h.className, h.semanticType]
  split
  · apply Alike.after
    intro type
    split
    · exact Alike.pure trivial
    · exact Alike.after _ fun _ => Alike.refuse
  · exact Alike.refuse

/-- What a builder came back with is judged alike when it is restyled. -/
theorem ensureFilter_alike (h : v.Restyled texts style other w) :
    Alike (Value.Restyled texts style other) (values.ensureFilter v) (values.ensureFilter w) :=
  (requireFilter_alike h _).bind fun _ _ _ => Alike.pure h

/-- Restyled operands are compared alike. -/
theorem equate_alike (hl : left.Restyled texts style other left')
    (hr : right.Restyled texts style other right') :
    Alike (Value.Restyled texts style other) (values.equate left right) (values.equate left' right') := by
  unfold equate
  apply (requireNode_alike hl).bind
  intro _ _ _
  apply (requireNode_alike hr).bind
  intro _ _ _
  simp only [values_typeOf, values_check, values_join, values_refuse, hl.semanticType, hr.semanticType]
  apply Alike.after
  intro leftType
  apply Alike.after
  intro rightType
  split
  · exact Alike.pure (.join equalitySign hl hr)
  · apply Alike.after
    intro leftName
    apply Alike.after
    intro rightName
    exact Alike.refuse

/-- Restyled operands are joined alike. -/
theorem conjoin_alike (hl : left.Restyled texts style other left')
    (hr : right.Restyled texts style other right') :
    Alike (Value.Restyled texts style other) (values.conjoin left right)
      (values.conjoin left' right') := by
  unfold conjoin
  apply (requireFilter_alike hl _).bind
  intro _ _ _
  apply (requireFilter_alike hr _).bind
  intro _ _ _
  exact Alike.pure (.join conjunctionSign hl hr)

/-- Filters are built alike by builders that end alike. -/
theorem buildFilter_alike {opening opening' : Record} {builder builder' : Traced Value}
    (h : Alike (Value.Restyled texts style other) builder builder') :
    Alike (Value.Restyled texts style other) (values.buildFilter opening builder)
      (values.buildFilter opening' builder') := by
  unfold buildFilter
  apply (Alike.emit trivial).bind (R := fun _ _ => True)
  intro _ _ _
  exact h.bind fun _ _ hbuilt => ensureFilter_alike hbuilt

end Operands

/-- Two capabilities differ only in the style in which they quote texts. -/
structure Capability.Restyled (texts : List String) (style other : QuoteStyle) (c d : Capability) :
    Prop where
  type : d.type = c.type
  accepts : ∀ {v w : Value}, v.Restyled texts style other w → d.accepts w = c.accepts v
  asExpression : ∀ {v w : Value}, v.Restyled texts style other w →
    Alike (fun n m => Value.Restyled texts style other (.node n) (.node m)) (c.asExpression v)
      (d.asExpression w)

/-- The capabilities of two bundles differ only in the style in which they quote texts. -/
def Bundle.Restyled (texts : List String) (style other : QuoteStyle) (bundle bundle' : Bundle) : Prop :=
  List.Forall₂ (Capability.Restyled texts style other) bundle.capabilities bundle'.capabilities

/-- Searches through two lists side by side end at related members, if the tests agree. -/
theorem find?_rel_of_forall₂ {α β : Type} {R : α → β → Prop} {p : α → Bool} {q : β → Bool}
    {members : List α} {others : List β} (h : List.Forall₂ R members others)
    (agree : ∀ a b, R a b → q b = p a) : Option.Rel R (members.find? p) (others.find? q) := by
  induction h with
  | nil => exact .none
  | @cons a b _ _ hab _ ih =>
    rw [List.find?_cons, List.find?_cons, agree a b hab]
    cases p a with
    | true => exact .some hab
    | false => exact ih

namespace Bundle

variable {bundle bundle' : Bundle} {type : SemanticType}

/-- A restyled bundle picks the restyled capability. -/
theorem Restyled.pick? (h : bundle.Restyled texts style other bundle')
    (hv : v.Restyled texts style other w) (type : SemanticType) :
    Option.Rel (Capability.Restyled texts style other) (bundle.pick? v type) (bundle'.pick? w type) := by
  unfold Bundle.pick?
  split
  · exact find?_rel_of_forall₂ h fun c d hcd => hcd.accepts hv
  · exact find?_rel_of_forall₂ h fun c d hcd => by rw [hcd.type]

/-- A value for which no capability is picked is refused in the same words. -/
theorem refuseUnpicked_alike {R : Value → Value → Prop} :
    Alike R (refuseUnpicked v type) (refuseUnpicked v type) := by
  unfold refuseUnpicked
  split
  · exact Alike.refuse
  · exact Alike.after _ fun _ => Alike.refuse

/-- Whether a node has the required type does not depend on the style. -/
theorem requireType_alike (h : v.Restyled texts style other w) :
    Alike (Value.Restyled texts style other) (Lifting.requireType Operands.values v type)
      (Lifting.requireType Operands.values w type) := by
  unfold Lifting.requireType
  simp only [Operands.values_typeOf, Operands.values_check, Operands.values_refuse, h.semanticType]
  apply Alike.after
  intro actual
  split
  · exact Alike.pure h
  · apply Alike.after
    intro actualName
    apply Alike.after
    intro requiredName
    exact Alike.refuse

/-- A restyled bundle lifts restyled operands alike. -/
theorem Restyled.lift (h : bundle.Restyled texts style other bundle')
    (hv : v.Restyled texts style other w) (type : SemanticType) :
    Alike (Value.Restyled texts style other) (bundle.lift v type) (bundle'.lift w type) := by
  cases raw : v.isNode with
  | false =>
    obtain rfl := hv.eq_of_raw raw
    rw [lift_raw bundle raw, lift_raw bundle' raw]
    have hpick := h.pick? hv type
    generalize bundle.pick? w type = picked at hpick ⊢
    generalize bundle'.pick? w type = picked' at hpick ⊢
    cases hpick with
    | none => exact refuseUnpicked_alike
    | some hcd => exact (hcd.asExpression hv).map fun _ _ hn => hn
  | true =>
    obtain ⟨n, rfl⟩ := Value.eq_node_of_isNode raw
    obtain ⟨m, rfl⟩ := Value.eq_node_of_isNode (hv.isNode.trans raw)
    rw [lift_node, lift_node]
    split
    · exact Alike.pure hv
    · exact requireType_alike hv

/-- A raw operand that faces a node is compared with it alike when both are restyled. -/
theorem Restyled.equateWith (h : bundle.Restyled texts style other bundle')
    (hl : left.Restyled texts style other left') (hr : right.Restyled texts style other right') :
    Alike (Value.Restyled texts style other) (Operands.values.equateWith bundle.lift left right)
      (Operands.values.equateWith bundle'.lift left' right') := by
  unfold Operands.equateWith
  simp only [Operands.values_typeOf, hl.semanticType]
  apply Alike.after
  intro type
  apply (h.lift hr type).bind
  intro _ _ hlifted
  exact Operands.equate_alike hl hlifted

/-- A comparison takes restyled operands to runs that end alike. -/
theorem Restyled.equate (h : bundle.Restyled texts style other bundle')
    (hl : left.Restyled texts style other left') (hr : right.Restyled texts style other right') :
    Alike (Value.Restyled texts style other) (bundle.equate left right)
      (bundle'.equate left' right') := by
  unfold Bundle.equate Operands.equateLifting
  simp only [Operands.values_isNode, pure_bind, hl.isNode, hr.isNode]
  split
  · split
    · exact Operands.equate_alike hl hr
    · exact h.equateWith hl hr
  · split
    · exact h.equateWith hr hl
    · apply (h.lift hl .absent).bind
      intro _ _ hlifted
      exact h.equateWith hlifted hr

end Bundle

/-- Two adapters differ only in the style in which they quote texts. -/
inductive Adapter.Restyled (texts : List String) (style other : QuoteStyle) : Adapter → Adapter → Prop
  | raw {c d : Capability} (h : c.Restyled texts style other d) :
    Restyled texts style other (.raw c) (.raw d)
  | identity (type : SemanticType) : Restyled texts style other (.identity type) (.identity type)

namespace Adapter.Restyled

variable {a b : Adapter}

/-- A restyled adapter leads to the same type. -/
theorem target (h : a.Restyled texts style other b) : b.target = a.target := by
  cases h with
  | raw h => exact h.type
  | identity type => rfl

/-- A restyled adapter accepts the same operands. -/
theorem accepts (h : a.Restyled texts style other b) (hv : v.Restyled texts style other w) :
    b.accepts w = a.accepts v := by
  cases h with
  | raw h => simp only [Adapter.accepts, hv.isNode, h.accepts hv]
  | identity type => simp only [Adapter.accepts, hv.isNode, hv.semanticType]

/-- A restyled adapter converts restyled operands alike. -/
theorem toExpression (h : a.Restyled texts style other b) (hv : v.Restyled texts style other w) :
    Alike (Value.Restyled texts style other) (a.toExpression v) (b.toExpression w) := by
  cases h with
  | raw h => exact (h.asExpression hv).map fun _ _ hn => hn
  | identity type => exact Alike.pure hv

end Adapter.Restyled

/-- The adapters of two sets differ only in the style in which they quote texts. -/
def AdapterSet.Restyled (texts : List String) (style other : QuoteStyle) (set set' : AdapterSet) : Prop :=
  List.Forall₂ (Adapter.Restyled texts style other) set.adapters set'.adapters

namespace AdapterSet

variable {set set' : AdapterSet} {type : SemanticType} {sign : String}

/-- The adapters of a restyled bundle are the restyled adapters. -/
theorem restyled_ofBundle {bundle bundle' : Bundle} (h : bundle.Restyled texts style other bundle') :
    (ofBundle bundle).Restyled texts style other (ofBundle bundle') := by
  obtain ⟨capabilities⟩ := bundle
  obtain ⟨capabilities'⟩ := bundle'
  change List.Forall₂ _ capabilities capabilities' at h
  unfold Restyled ofBundle
  induction h with
  | nil => exact .cons (.identity .bool) .nil
  | cons hcd _ ih =>
    have htype := hcd.type
    simp only [List.flatMap_cons, List.cons_append, List.nil_append, htype]
    exact .cons (.raw hcd) (.cons (.identity _) ih)

/-- A restyled set reaches the same types. -/
theorem Restyled.targetTypes (h : set.Restyled texts style other set') :
    set'.targetTypes = set.targetTypes := by
  obtain ⟨adapters⟩ := set
  obtain ⟨adapters'⟩ := set'
  change List.Forall₂ _ adapters adapters' at h
  have targets : adapters'.map (·.target) = adapters.map (·.target) := by
    induction h with
    | nil => rfl
    | cons hab _ ih => rw [List.map_cons, List.map_cons, hab.target, ih]
  rw [AdapterSet.targetTypes, AdapterSet.targetTypes, targets]

/-- Restyled operands are sent to restyled adapters, or fail alike. -/
theorem Restyled.resolve (h : set.Restyled texts style other set')
    (hv : v.Restyled texts style other w) (type : SemanticType) :
    Alike (Option.Rel (Adapter.Restyled texts style other)) (set.resolve v type)
      (set'.resolve w type) := by
  obtain ⟨adapters⟩ := set
  obtain ⟨adapters'⟩ := set'
  change List.Forall₂ _ adapters adapters' at h
  unfold AdapterSet.resolve
  induction h with
  | nil => exact Alike.pure .none
  | @cons a b _ _ hab _ ih =>
    simp only [Search.firstAccepting, pure_bind, hab.target, hab.accepts hv]
    split
    · apply Alike.after
      intro accepted
      split
      · exact Alike.pure (.some hab)
      · exact ih
    · exact ih

/-- Restyled operands are joined alike at each type. -/
theorem Restyled.combine (h : set.Restyled texts style other set')
    (hl : left.Restyled texts style other left') (hr : right.Restyled texts style other right')
    (sign : String) (type : SemanticType) :
    Alike (Option.Rel (Value.Restyled texts style other)) (set.search.combine left sign right type)
      (set'.search.combine left' sign right' type) := by
  unfold search Search.combineBy
  apply (h.resolve hl type).bind
  intro a? b? hleft
  apply (h.resolve hr type).bind
  intro c? d? hright
  cases hleft with
  | none => exact Alike.pure .none
  | some hab =>
    cases hright with
    | none => exact Alike.pure .none
    | some hcd =>
      apply (hab.toExpression hl).bind
      intro _ _ hleft
      apply (hcd.toExpression hr).bind
      intro _ _ hright
      exact Alike.pure (.some (.join sign hleft hright))

/-- The search for a common type ends alike for restyled operands. -/
theorem Restyled.combineFirst (h : set.Restyled texts style other set')
    (hl : left.Restyled texts style other left') (hr : right.Restyled texts style other right')
    (sign : String) (types : List SemanticType) :
    Alike (Option.Rel (Value.Restyled texts style other))
      (set.search.combineFirst left sign right types)
      (set'.search.combineFirst left' sign right' types) := by
  induction types with
  | nil => exact Alike.pure .none
  | cons type rest ih =>
    unfold Search.combineFirst
    apply (h.combine hl hr sign type).bind
    intro _ _ hjoined
    cases hjoined with
    | none => exact ih
    | some hjoined => exact Alike.pure (.some hjoined)

/-- That no common type was found is reported alike. -/
theorem refuseComparison_alike (hl : left.Restyled texts style other left')
    (hr : right.Restyled texts style other right') :
    Alike (Value.Restyled texts style other) (Search.refuseComparison Operands.values left right)
      (Search.refuseComparison Operands.values left' right') := by
  unfold Search.refuseComparison
  simp only [Operands.values_look, Operands.values_check, Operands.values_run,
    Operands.values_className, Operands.values_refuse, pure_bind, hl.className, hr.className]
  apply (Alike.ofFault hl.inspect).bind
  intro _ _ _
  apply (Alike.ofFault hr.inspect).bind
  intro _ _ _
  apply (Alike.emit trivial).bind (R := fun _ _ => True)
  intro _ _ _
  exact Alike.refuse

/-- A comparison through adapters takes restyled operands to runs that end alike. -/
theorem Restyled.equate (h : set.Restyled texts style other set')
    (hl : left.Restyled texts style other left') (hr : right.Restyled texts style other right') :
    Alike (Value.Restyled texts style other) (set.equate left right) (set'.equate left' right') := by
  obtain ⟨hfirst, hsecond⟩ := hl.turned hr
  unfold AdapterSet.equate Search.equate
  simp only [Search.nodeFirst_values, search_targets, pure_bind, h.targetTypes]
  apply (h.combineFirst hfirst hsecond equalitySign set.targetTypes).bind
  intro _ _ hjoined
  cases hjoined with
  | none => exact refuseComparison_alike hfirst hsecond
  | some hjoined => exact Alike.pure hjoined

/-- The restyled form of the same operand is blamed. -/
theorem Restyled.blame (h : set.Restyled texts style other set')
    (hl : left.Restyled texts style other left') (hr : right.Restyled texts style other right') :
    Alike (Value.Restyled texts style other) (set.search.blame left right)
      (set'.search.blame left' right') := by
  unfold Search.blame
  simp only [search_truth, search_reaches, pure_bind]
  apply ((h.resolve hl .bool).map (T := Eq) ?_).bind
  · rintro reached _ rfl
    split
    · exact Alike.pure hr
    · exact Alike.pure hl
  · rintro _ _ (_ | _) <;> rfl

/-- A conjunction through adapters takes restyled operands to runs that end alike. -/
theorem Restyled.conjoin (h : set.Restyled texts style other set')
    (hl : left.Restyled texts style other left') (hr : right.Restyled texts style other right') :
    Alike (Value.Restyled texts style other) (set.conjoin left right) (set'.conjoin left' right') := by
  unfold AdapterSet.conjoin Search.conjoin
  simp only [search_truth, pure_bind]
  apply (h.combine hl hr conjunctionSign .bool).bind
  intro _ _ hjoined
  cases hjoined with
  | some hjoined => exact Alike.pure hjoined
  | none =>
    apply (h.blame hl hr).bind
    intro _ _ hbad
    simp only [Operands.values_className, Operands.values_refuse, pure_bind, hbad.className]
    exact Alike.refuse

end AdapterSet

end Joins

end FilterAlgebra
