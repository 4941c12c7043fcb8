import FilterAlgebra.Proofs.CapabilityObjects
import FilterAlgebra.Proofs.ClassKeys
import FilterAlgebra.Proofs.Conversions

/-!
# Bundles as objects

What a bundle does is stated once, in `Lifting`, for operands and capabilities of any
kind. Here it is shown that a session, in which both are objects that are asked by name,
does by it what `Bundle` does on values. Of a capability only the answers matter: an
object acts as a capability, `Session.Acts`, if from now on it accepts what the
capability accepts and makes of it what the capability makes of it. Objects of the
catalogue do (`IsCapability.acts`), and so may objects of classes that users add.

The semantic types of nodes are taken to be classes or absent, `Value.OfClass`, since a
bundle looks capabilities up under classes.
-/

set_option autoImplicit false

namespace FilterAlgebra

namespace Value

/-- The type of a value, if it has one, is a class or absent. -/
def OfClass (v : Value) : Prop :=
  ∀ h, v.semanticType ≠ .ok (.other h)

/-- Expressions of a type that is a class are of a class. -/
theorem ofClass_node {n : Node} {type : SemanticType} (typed : (node n).semanticType = .ok type)
    (isClass : type.isClass = true) : (node n).OfClass := by
  intro h same
  rw [typed] at same
  obtain rfl := Except.ok.inj same
  cases isClass

/-- What is lifted is of a class. -/
theorem OfClass.lift {bundle : Bundle} {v w : Value} {type : SemanticType} (ofClass : v.OfClass)
    (lifted : (bundle.lift v type).result = .ok w) : w.OfClass := by
  cases v with
  | node n =>
    obtain ⟨-, rfl⟩ := Bundle.lift_node_eq_ok_iff.mp lifted
    exact ofClass
  | _ =>
    obtain ⟨c, text, -, -, rfl⟩ := (Bundle.lift_raw_eq_ok_iff rfl).mp lifted
    exact ofClass_node rfl c.classType

/-- Conjunctions are of a class. -/
theorem ofClass_of_conjoin {v w u : Value} (conjoined : (Node.conjoin v w).result = .ok u) : u.OfClass := by
  obtain ⟨l, r, -, -, -, -, rfl⟩ := Node.conjoin_eq_ok_iff.mp conjoined
  exact ofClass_node rfl rfl

end Value

namespace Session

/-- From now on an object does what a capability does, asked by calls that may go as deep as given. -/
structure Acts (s : Session) (n : Nat) (r : Ref) (c : Capability) : Prop where
  lt : r < s.cells.size
  typed : ∀ s', s.ExtendedBy s' → s'.InOrder → ∃ q,
    (SessionM.attributeOf r Attribute.semanticType).runIn s' = (.ok q, s') ∧ s'.IsType q c.type
  accepts : ∀ s' x v m, s.ExtendedBy s' → s'.InOrder → s'.Stands x v → n ≤ m →
    SessionM.Makes (fun s'' q => s''.IsPlain q (.atom (.bool (c.accepts v)))) s'
      (SessionM.request (SessionM.callWithin m) r .accepts [x])
  converts : ∀ s' x v m, s.ExtendedBy s' → s'.InOrder → s'.Stands x v → n ≤ m →
    SessionM.Simulates Stands s' (SessionM.request (SessionM.callWithin m) r .asExpression [x])
      (Value.node <$> c.asExpression v)

/-- A class in a mapping stands before an object that acts as a capability for it. -/
def Serves (s : Session) (n : Nat) (entry : Ref × Ref) (c : Capability) : Prop :=
  s.IsType entry.1 c.type ∧ s.Acts n entry.2 c

/-- An object is a bundle of objects that act as capabilities. By the types it keeps the first one of
each type. -/
def IsBundle (s : Session) (n : Nat) (r : Ref) (bundle : Bundle) : Prop :=
  ∃ m d members entries firsts,
    s.IsObject r .bundle [(Attribute.capabilities, m), (Attribute.byType, d)] ∧
    s.IsPlain m (.tuple members) ∧ List.Forall₂ (s.Acts n) members bundle.capabilities ∧
    s.IsPlain d (.dict entries) ∧ List.Forall₂ (s.Serves n) entries firsts ∧
    ∀ type, firsts.find? (·.type = type) = bundle.capability? type

variable {s s' : Session} {r x : Ref} {n : Nat} {c : Capability} {v : Value}

/-- An object goes on acting as a capability. -/
theorem Acts.extended (h : s.Acts n r c) (extended : s.ExtendedBy s') : s'.Acts n r c where
  lt := h.lt.trans_le extended.size
  typed s'' extended' := h.typed s'' (extended.trans extended')
  accepts s'' x v m extended' := h.accepts s'' x v m (extended.trans extended')
  converts s'' x v m extended' := h.converts s'' x v m (extended.trans extended')

/-- What a capability does at some depth it does at any greater one. -/
theorem Acts.mono {m : Nat} (h : s.Acts n r c) (le : n ≤ m) : s.Acts m r c where
  lt := h.lt
  typed := h.typed
  accepts s' x v k extended order stands deep := h.accepts s' x v k extended order stands (le.trans deep)
  converts s' x v k extended order stands deep := h.converts s' x v k extended order stands (le.trans deep)

/-- A class goes on standing before an object that acts as a capability for it. -/
theorem Serves.extended {entry : Ref × Ref} (h : s.Serves n entry c) (extended : s.ExtendedBy s')
    (closed : s.Closed) : s'.Serves n entry c :=
  ⟨h.1.extended extended closed, h.2.extended extended⟩

/-- A bundle stays one. -/
theorem IsBundle.extended {bundle : Bundle} (h : s.IsBundle n r bundle) (extended : s.ExtendedBy s')
    (closed : s.Closed) : s'.IsBundle n r bundle := by
  obtain ⟨m, d, members, entries, firsts, object, isTuple, act, isDict, serve, first⟩ := h
  exact ⟨m, d, members, entries, firsts, object.extended extended, isTuple.extended extended,
    act.imp fun _ _ h => h.extended extended, isDict.extended extended,
    serve.imp fun _ _ h => h.extended extended closed, first⟩

/-- A bundle is an object with two attributes. -/
theorem IsBundle.isObject {bundle : Bundle} (h : s.IsBundle n r bundle) :
    ∃ m d, s.IsObject r .bundle [(Attribute.capabilities, m), (Attribute.byType, d)] := by
  obtain ⟨m, d, _, _, _, object, -⟩ := h
  exact ⟨m, d, object⟩

/-- A capability of the catalogue acts as what it is, asked by calls that may go seven levels deep. -/
theorem IsCapability.acts {c : StandardCapability} (h : s.IsCapability r c) (enough : 7 ≤ n) :
    s.Acts n r c.toCapability where
  lt := by
    obtain ⟨attributes, object, -⟩ := h.isObject
    exact object.lt
  typed s' extended order := by
    obtain ⟨q, shown, isClass⟩ := SessionM.runIn_semanticTypeAttribute order (h.extended extended)
    exact ⟨q, shown, _, isClass, c.classType_builtIn s'⟩
  accepts s' x v m extended order stands deep := by
    obtain ⟨k, rfl⟩ := Nat.exists_eq_add_of_le' (enough.trans deep)
    exact SessionM.accepts_makes (n := k + 2) order (h.extended extended) stands
  converts s' x v m extended order stands deep := by
    obtain ⟨k, rfl⟩ := Nat.exists_eq_add_of_le' (enough.trans deep)
    exact SessionM.asExpression_simulates order (h.extended extended) stands

/-- What an object is as a type: absent, a class or something else. -/
theorem typeOf_cases (s : Session) (r : Ref) :
    s.typeOf r = .absent ∨ (∃ id, s.typeOf r = s.classType id) ∨ ∃ h, s.typeOf r = .other h := by
  unfold typeOf Snapshot.typeOf
  split
  · exact .inr (.inl ⟨_, rfl⟩)
  · exact .inl rfl
  · exact .inr (.inr ⟨_, rfl⟩)

/-- The type of a node, if it has one, is absent or that of a class. -/
theorem Stands.type_eq {t : SemanticType} (h : s.Stands r v) (node : v.isNode = true) (ofClass : v.OfClass)
    (typed : v.semanticType = .ok t) : t = .absent ∨ ∃ id, t = s.classType id := by
  obtain ⟨_, _, _, hasType⟩ := h.typed node
  have noOther : ∀ h, t ≠ .other h := fun h same => ofClass h (by rw [typed, same])
  rw [typed] at hasType
  generalize outcome : (Except.ok t : Except Fault SemanticType) = expected at hasType
  cases hasType with
  | @own q =>
    obtain rfl := Except.ok.inj outcome
    obtain absent | class' | ⟨h, other⟩ := s.typeOf_cases q
    · exact .inl absent
    · exact .inr class'
    · exact absurd other (noOther h)
  | @kept id => exact .inr ⟨id, Except.ok.inj outcome⟩
  | missing => cases outcome

/-- Under a class stands an object that acts as the first capability for it. -/
theorem find?_serves {t : SemanticType} (key : s.IsType r t) {entries : List (Ref × Ref)} {firsts : List Capability}
    (serve : List.Forall₂ (s.Serves n) entries firsts) :
    Option.Rel (s.Acts n) ((entries.find? fun entry => entry.1 == r).map fun entry => entry.2)
      (firsts.find? (·.type = t)) := by
  induction serve with
  | nil => exact .none
  | @cons entry c entries firsts first _ ih =>
    obtain ⟨isType, acts⟩ := first
    rw [List.find?_cons, List.find?_cons]
    by_cases same : entry.1 = r
    · have ofType : c.type = t := (isType.ref_eq_iff key).mp same
      simp only [same, ofType, beq_self_eq_true, decide_true, Option.map_some]
      exact .some acts
    · have ofOther : c.type ≠ t := mt (isType.ref_eq_iff key).mpr same
      simp only [beq_eq_false_iff_ne.mpr same, ofOther, decide_false]
      exact ih

end Session

namespace StandingClass

/-- What objects of the classes of adapters and scopes are asked for. -/
def offers : List (StandingClass × Action) :=
  [(bundle, .capabilityFor), (bundle, .lift), (bundle, .equate), (bundle, .conjoin), (rawAdapter, .accepts),
   (rawAdapter, .toExpression), (identityAdapter, .accepts), (identityAdapter, .toExpression),
   (adapterSet, .targetTypes), (adapterSet, .resolve), (adapterSet, .combine), (adapterSet, .equateUnified),
   (adapterSet, .conjoinUnified)]

end StandingClass

namespace SessionM

variable {s s' : Session} {r x : Ref} {n m : Nat} {v : Value} {bundle : Bundle}

/-- What a request for an adapter or a scope comes to. -/
theorem scope_comesTo (order : s.InOrder) {c : StandingClass} {attributes : Table Ref} (action : Action)
    (operands : List Ref) (offered : (c, action) ∈ StandingClass.offers) (object : s.IsObject r c attributes)
    (lacks : Table.get? attributes action.name = none)
    (enough : (⟨c, action⟩ : Function).others.length - (⟨c, action⟩ : Function).optional ≤ operands.length)
    (notMore : operands.length ≤ (⟨c, action⟩ : Function).others.length) :
    ∃ s', ComesTo s (request (callWithin (n + 2)) r action operands) s'
      (performOnScope (callWithin n) c action r operands) := by
  have all : ∀ offer ∈ StandingClass.offers, offer.1 ∈ StandingClass.asked ∧
      offer.1.function? offer.2 = some ⟨offer.1, offer.2⟩ ∧
      (offer.2.name ≠ Attribute.ofClass ∧ offer.2.name ≠ Attribute.all) ∧ offer.2.isOfClass = false := by
    decide +kernel
  obtain ⟨asked, found, ordinary, ofObjects⟩ := all _ offered
  obtain ⟨s', comesTo⟩ := request_comesTo (n := n) order action operands object asked found lacks ordinary ofObjects
    (by simp only [Function.operands, List.length_cons]; omega)
    (by simp only [Function.operands, List.length_cons]; omega)
  have given : ∀ k, (operands.map some ++ List.replicate k none).filterMap id = operands := by
    intro k
    simp [List.filterMap_append, List.filterMap_map]
  have performed : ∀ offer ∈ StandingClass.offers, ∀ others args,
      perform (callWithin n) ⟨offer.1, offer.2⟩ r others args =
        performOnScope (callWithin n) offer.1 offer.2 r (others.filterMap id) := by
    simp only [StandingClass.offers, List.forall_mem_cons]
    exact ⟨fun _ _ => rfl, fun _ _ => rfl, fun _ _ => rfl, fun _ _ => rfl, fun _ _ => rfl, fun _ _ => rfl,
      fun _ _ => rfl, fun _ _ => rfl, fun _ _ => rfl, fun _ _ => rfl, fun _ _ => rfl, fun _ _ => rfl, fun _ _ => rfl,
      fun _ member => absurd member List.not_mem_nil⟩
  rw [performed _ offered, given] at comesTo
  exact ⟨s', comesTo⟩

/-- A request for an adapter or a scope simulates what the action it comes to simulates. -/
theorem scope_simulates {α : Type} {R : Session → Ref → α → Prop} {run : Traced α} (order : s.InOrder)
    {c : StandingClass} {attributes : Table Ref} (action : Action) (operands : List Ref)
    (offered : (c, action) ∈ StandingClass.offers) (object : s.IsObject r c attributes)
    (lacks : Table.get? attributes action.name = none)
    (enough : (⟨c, action⟩ : Function).others.length - (⟨c, action⟩ : Function).optional ≤ operands.length)
    (notMore : operands.length ≤ (⟨c, action⟩ : Function).others.length)
    (rest : ∀ s₁, s.ExtendedBy s₁ → s₁.InOrder →
      Simulates R s₁ (performOnScope (callWithin n) c action r operands) run) :
    Simulates R s (request (callWithin (n + 2)) r action operands) run := by
  obtain ⟨s₁, comesTo⟩ := scope_comesTo (n := n) order action operands offered object lacks enough notMore
  exact comesTo.simulates (rest s₁ comesTo.1.extended comesTo.1.order)

section Members

/-- The members of a row that an object has of its own are read off it. -/
theorem runIn_membersOf {c : StandingClass} {attributes : Table Ref} {name : String} {m : Ref} {members : List Ref}
    (object : s.IsObject r c attributes) (ordinary : name ≠ Attribute.ofClass ∧ name ≠ Attribute.all)
    (found : Table.get? attributes name = some m) (isTuple : s.IsPlain m (.tuple members)) :
    (membersOf r name).runIn s = (.ok members, s) := by
  have own := runIn_attributeOf_own (object.content_eq ▸ rfl) ordinary ((object.attribute?_eq _).trans found)
  rw [membersOf, runIn_bind_of_ok own, itemsOf, runIn_get_bind, isTuple.content_eq]
  rfl

/-- Whether an object accepts another one is whether the capability does that it acts as. -/
theorem isAccepted_makes {c : Capability} (order : s.InOrder) (acts : s.Acts n r c) (h : s.Stands x v)
    (deep : n ≤ m) : Makes (fun _ accepted => accepted = c.accepts v) s (isAccepted (callWithin m) r x) := by
  refine (acts.accepts s x v m (.refl s) order h deep).bind fun s₁ q _ order₁ isTruth => ?_
  refine ⟨_, s₁, runIn_truthOf isTruth, growsTo_refl order₁, ?_⟩
  cases c.accepts v <;> rfl

/-- The first of some objects that accepts another one acts as the first capability that does. -/
theorem firstAccepting_simulates {members : List Ref} {capabilities : List Capability} (order : s.InOrder)
    (h : s.Stands x v) (act : List.Forall₂ (s.Acts n) members capabilities) (deep : n ≤ m) :
    Simulates (fun s' => Option.Rel (s'.Acts n)) s ((liftingOf (callWithin m) r).firstAccepting x members)
      (bundle.lifting.firstAccepting v capabilities) := by
  induction members generalizing s capabilities with
  | nil =>
    cases act
    exact .pure order .none
  | cons member members ih =>
    cases act with
    | @cons _ c _ capabilities first others =>
      simp only [Lifting.firstAccepting, Bundle.lifting, pure_bind]
      refine Simulates.made (isAccepted_makes order first h deep) fun s₁ accepted extended order₁ same => ?_
      rw [same]
      cases c.accepts v with
      | true => exact .pure order₁ (.some (first.extended extended))
      | false =>
        exact ih order₁ (h.extended extended order.toClosed) (others.imp fun _ _ h => h.extended extended)

/-- The object for the absent value is nothing but that. -/
theorem absent_makes (order : s.InOrder) : Makes (fun s' q => s'.IsPlain q (.atom .none)) s absent :=
  newAtom_makes order fun _ known => Value.content?_of_isSimple rfl known

/-- Simple values are of classes that are always there, and no nodes. -/
theorem class_of_isSimple {w : Value} (simple : w.isSimple = true) :
    (∃ t ∈ SemanticType.fixed, w.classId = StandingClass.builtIn t ∧ t.fixedName = w.className) ∧ w.isNode = false := by
  cases w with
  | none => exact ⟨⟨.none, by simp [SemanticType.fixed], rfl, rfl⟩, rfl⟩
  | bool => exact ⟨⟨.bool, by simp [SemanticType.fixed], rfl, rfl⟩, rfl⟩
  | int => exact ⟨⟨.int, by simp [SemanticType.fixed], rfl, rfl⟩, rfl⟩
  | float => exact ⟨⟨.float, by simp [SemanticType.fixed], rfl, rfl⟩, rfl⟩
  | bytes => exact ⟨⟨.bytes, by simp [SemanticType.fixed], rfl, rfl⟩, rfl⟩
  | decimal => exact ⟨⟨.decimal, by simp [SemanticType.fixed], rfl, rfl⟩, rfl⟩
  | text t =>
    cases t with
    | plain => exact ⟨⟨.str, by simp [SemanticType.fixed], rfl, rfl⟩, rfl⟩
    | _ => simp [Value.isSimple] at simple
  | _ => simp [Value.isSimple] at simple

/-- A plain object for a simple value stands for it. -/
theorem stands_simple (order : s.InOrder) (simple : v.isSimple = true) (isPlain : s.IsPlain r (.atom v)) :
    s.Stands r v := by
  obtain ⟨⟨t, isFixed, classId, name⟩, noNode⟩ := class_of_isSimple simple
  have classOf : s.classOf r = StandingClass.builtIn t := by
    rw [Session.classOf, isPlain.below?_eq, isPlain.content_eq]
    exact classId
  refine ⟨isPlain.lt, isPlain.value_eq, isPlain.isNode_eq.trans noNode.symm, ?_, fun node => ?_⟩
  · rw [Session.className, classOf, order.builtInNames t isFixed, name]
  · rw [noNode] at node
    cases node

/-- What stands under a class in a mapping acts as the capability of the type. -/
theorem capabilityIn_simulates {t : SemanticType} {type : Ref} (order : s.InOrder)
    (isBundle : s.IsBundle n r bundle) (isType : s.IsType type t) :
    Simulates (fun s' q c => s'.Acts n q c) s (capabilityIn r type) (bundle.capabilityFor t) := by
  obtain ⟨m, d, members, entries, firsts, object, -, -, isDict, serve, first⟩ := isBundle
  have own : (attributeOf r Attribute.byType).runIn s = (.ok d, s) :=
    runIn_attributeOf_own (object.content_eq ▸ rfl) (by decide) (object.attribute?_eq _)
  have classes : ∀ entry ∈ entries, ∃ u, s.IsType entry.1 u :=
    ((List.forall₂_and_left _ _).mp (serve.imp fun _ c h => ⟨⟨c.type, h.1⟩, h⟩)).1
  have looked : (entryUnder? d type).runIn s =
      (.ok ((entries.find? fun entry => entry.1 == type).map fun entry => entry.2), s) := by
    have shown : (entriesOf? d).runIn s = (.ok (some entries), s) := by
      rw [entriesOf?, runIn_get_bind, isDict.content_eq]
      rfl
    rw [entryUnder?, runIn_bind_of_ok shown, runIn_get_bind, Session.find?_classes order isType classes]
    rfl
  have served := Session.find?_serves isType serve
  rw [first] at served
  unfold capabilityIn Bundle.capabilityFor
  refine Simulates.read own (Simulates.read looked ?_)
  cases found : bundle.capability? t with
  | some c =>
    rw [found] at served
    cases found' : (entries.find? fun entry => entry.1 == type).map fun entry => entry.2 with
    | none => simp [found'] at served
    | some q =>
      rw [found'] at served
      cases served with
      | some acts => exact .pure order acts
  | none =>
    rw [found] at served
    cases found' : (entries.find? fun entry => entry.1 == type).map fun entry => entry.2 with
    | some q => simp [found'] at served
    | none =>
      have typed : (typeOf type).runIn s = (.ok t, s) := by
        rw [← isType.typeOf]
        rfl
      refine Simulates.read typed ?_
      refine (Simulates.ofFault order t.name).bind fun s₁ name _ _ order₁ same => ?_
      subst same
      refine Simulates.made (absent_makes order₁) fun s₂ q _ order₂ isNone => ?_
      exact refuse_simulates order₂ (stands_simple order₂ rfl isNone) _ _

end Members

section Lifts

/-- An expression is of a required type if its value is. -/
theorem requireType_simulates (order : s.InOrder) (h : s.Stands x v) (node : v.isNode = true)
    (required : SemanticType) :
    Simulates Session.Stands s (Lifting.requireType operands x required)
      (Lifting.requireType Operands.values v required) := by
  refine (typeOf_simulates order h node).bind fun s₁ actual _ extended₁ order₁ same => ?_
  subst same
  have h₁ := h.extended extended₁ order.toClosed
  by_cases agree : actual = required
  · simp only [agree, if_true]
    exact .pure order₁ h₁
  · simp only [agree, if_false]
    refine (check_simulates order₁ actual.name).bind fun s₂ a _ extended₂ order₂ same => ?_
    subst same
    refine (check_simulates order₂ required.name).bind fun s₃ b _ extended₃ order₃ same => ?_
    subst same
    exact refuse_simulates order₃ (h₁.extended (extended₂.trans extended₃) order₁.toClosed) _ _

/-- The class for a type that is one is made. -/
theorem typeObject_makes {t : SemanticType} (order : s.InOrder) (known : ∃ id, t = s.classType id) :
    Makes (fun s' q => s'.IsType q t) s (typeObject t) := by
  obtain ⟨id, rfl⟩ := known
  rw [Session.typeObject_classType]
  exact (Makes.classObject order id).imp fun s' q extended _ isClass =>
    ⟨id, isClass, extended.classType_eq order.toClosed id⟩

/-- A bundle is asked for the capability of a class and answers as it is looked up. -/
theorem capabilityFor_simulates {t : SemanticType} (order : s.InOrder) (isBundle : s.IsBundle n r bundle)
    (known : ∃ id, t = s.classType id) :
    Simulates (fun s' q c => s'.Acts n q c) s ((liftingOf (callWithin (n + 2)) r).capabilityFor t)
      (bundle.lifting.capabilityFor t) := by
  refine Simulates.made (typeObject_makes order known) fun s₁ type extended₁ order₁ isType => ?_
  have isBundle₁ := isBundle.extended extended₁ order.toClosed
  obtain ⟨m, d, object⟩ := isBundle₁.isObject
  refine scope_simulates (n := n) order₁ .capabilityFor [type] (by simp [StandingClass.offers]) object rfl
    (Nat.le_refl 1) (Nat.le_refl 1) fun s₂ extended₂ order₂ => ?_
  exact capabilityIn_simulates order₂ (isBundle₁.extended extended₂ order₁.toClosed)
    (isType.extended extended₂ order₁.toClosed)

/-- A bundle lifts an object to the type of a class as it lifts the value. -/
theorem liftTo_simulates {t : SemanticType} (order : s.InOrder) (isBundle : s.IsBundle n r bundle)
    (h : s.Stands x v) (known : ∃ id, t = s.classType id) :
    Simulates Session.Stands s ((liftingOf (callWithin (n + 2)) r).liftTo operands x t) (bundle.liftTo v t) := by
  unfold Bundle.liftTo Lifting.liftTo
  refine Simulates.read (runIn_isNode h) ?_
  simp only [Operands.values_isNode, pure_bind]
  cases node : v.isNode with
  | true => exact requireType_simulates order h node _
  | false =>
    refine (capabilityFor_simulates order isBundle known).bind fun s₁ q c extended order₁ acts => ?_
    exact acts.converts s₁ x v _ (.refl s₁) order₁ (h.extended extended order.toClosed) (Nat.le_add_right n 2)

/-- A bundle lifts an object to any type as it lifts the value. -/
theorem liftAny_simulates (order : s.InOrder) (isBundle : s.IsBundle n r bundle) (h : s.Stands x v) :
    Simulates Session.Stands s ((liftingOf (callWithin (n + 2)) r).liftAny operands x) (bundle.liftAny v) := by
  obtain ⟨m, d, members, _, _, object, isTuple, act, -⟩ := isBundle
  unfold Bundle.liftAny Lifting.liftAny
  refine Simulates.read (runIn_isNode h) ?_
  simp only [Operands.values_isNode, pure_bind]
  cases node : v.isNode with
  | true => exact .pure order h
  | false =>
    refine Simulates.read (runIn_membersOf object (by decide) rfl isTuple) ?_
    refine (firstAccepting_simulates order h act (Nat.le_add_right n 2)).bind fun s₁ q c extended order₁ first => ?_
    have h₁ := h.extended extended order.toClosed
    cases first with
    | some acts => exact acts.converts s₁ x v _ (.refl s₁) order₁ h₁ (Nat.le_add_right n 2)
    | none => exact .read (runIn_className h₁) (refuse_simulates order₁ h₁ _ _)

/-- An object that is given for a type is the class for it; none is given where any type will do. -/
def Given (s : Session) (type? : Option Ref) (t : SemanticType) : Prop :=
  Option.Rel s.IsType type? (if t = .absent then none else some t)

/-- The class for a type goes on being given. -/
theorem Given.extended {type? : Option Ref} {t : SemanticType} (h : Given s type? t) (extended : s.ExtendedBy s')
    (closed : s.Closed) : Given s' type? t := by
  unfold Given at *
  generalize (if t = .absent then none else some t) = expected at h ⊢
  cases h with
  | none => exact .none
  | some isType => exact .some (isType.extended extended closed)

/-- A bundle lifts an object as it lifts the value, to the type of a class or to any. -/
theorem liftIn_simulates {type? : Option Ref} {t : SemanticType} (order : s.InOrder)
    (isBundle : s.IsBundle n r bundle) (h : s.Stands x v) (given : Given s type? t) :
    Simulates Session.Stands s (liftIn (callWithin (n + 2)) r x type?) (bundle.lift v t) := by
  unfold liftIn Bundle.lift Lifting.lift
  unfold Given at given
  by_cases absent : t = .absent
  · simp only [absent, if_true] at given ⊢
    cases given
    exact liftAny_simulates order isBundle h
  · simp only [absent, if_false] at given ⊢
    cases given with
    | @some q _ isType =>
      have typed : (typeOf q).runIn s = (.ok t, s) := by
        rw [← isType.typeOf]
        rfl
      obtain ⟨id, -, type⟩ := isType
      refine Simulates.read typed ?_
      simp only [absent, if_false]
      exact liftTo_simulates order isBundle h ⟨id, type.symm⟩

/-- A bundle that is asked to lift an object does as it does with the value. -/
theorem requestLift_simulates {type? : Option Ref} {t : SemanticType} (order : s.InOrder)
    (isBundle : s.IsBundle n r bundle) (h : s.Stands x v) (given : Given s type? t) :
    Simulates Session.Stands s (request (callWithin (n + 4)) r .lift (x :: type?.toList)) (bundle.lift v t) := by
  obtain ⟨m, d, object⟩ := isBundle.isObject
  have counted : 1 ≤ (x :: type?.toList).length ∧ (x :: type?.toList).length ≤ 2 := by
    cases type? <;> simp
  refine scope_simulates (n := n + 2) order .lift (x :: type?.toList) (by simp [StandingClass.offers]) object rfl
    counted.1 counted.2 fun s₁ extended order₁ => ?_
  have performed : performOnScope (callWithin (n + 2)) .bundle .lift r (x :: type?.toList) =
      liftIn (callWithin (n + 2)) r x type? := by
    cases type? <;> rfl
  rw [performed]
  exact liftIn_simulates order₁ (isBundle.extended extended order.toClosed)
    (h.extended extended order.toClosed) (given.extended extended order.toClosed)

/-- How a bundle lifts the operands of a comparison. -/
def liftFor (call : Caller) (scope operand : Ref) (type : SemanticType) : SessionM Ref := do
  let type? ← if type = .absent then pure none else some <$> typeObject type
  request call scope .lift (operand :: type?.toList)

/-- In a comparison an object is lifted as its value is. -/
theorem liftFor_simulates {t : SemanticType} (order : s.InOrder) (isBundle : s.IsBundle n r bundle)
    (h : s.Stands x v) (known : t = .absent ∨ ∃ id, t = s.classType id) :
    Simulates Session.Stands s (liftFor (callWithin (n + 4)) r x t) (bundle.lift v t) := by
  unfold liftFor
  by_cases absent : t = .absent
  · simp only [absent, if_true, pure_bind]
    exact requestLift_simulates order isBundle h .none
  · simp only [absent, if_false, bind_map_left]
    refine Simulates.made (typeObject_makes order (known.resolve_left absent)) fun s₁ q extended order₁ isType => ?_
    have given : Given s₁ (some q) t := by
      rw [Given, if_neg absent]
      exact .some isType
    exact requestLift_simulates order₁ (isBundle.extended extended order.toClosed)
      (h.extended extended order.toClosed) given

end Lifts

section Comparisons

variable {l : Ref} {w : Value}

/-- A node is compared with an object as their values are, which are lifted to the type of the node. -/
theorem equateWith_simulates (order : s.InOrder) (isBundle : s.IsBundle n r bundle) (node : s.Stands l w)
    (isNode : w.isNode = true) (ofClass : w.OfClass) (h : s.Stands x v) :
    Simulates Session.Stands s (operands.equateWith (liftFor (callWithin (n + 4)) r) l x)
      (Operands.values.equateWith bundle.lift w v) := by
  have typed := (typeOf_simulates order node isNode).known (K := fun t => w.semanticType = .ok t)
    fun t ends => Traced.result_ofFault_eq_ok.mp ends
  refine typed.bind fun s₁ t _ extended₁ order₁ same => ?_
  obtain ⟨rfl, isType⟩ := same
  have node₁ := node.extended extended₁ order.toClosed
  have h₁ := h.extended extended₁ order.toClosed
  refine (liftFor_simulates order₁ (isBundle.extended extended₁ order.toClosed) h₁
    (node₁.type_eq isNode ofClass isType)).bind fun s₂ q u extended₂ order₂ lifted => ?_
  exact equate_simulates order₂ (node₁.extended extended₂ order₁.toClosed) lifted

/-- A bundle compares two objects as it compares their values. -/
theorem equateIn_simulates (order : s.InOrder) (isBundle : s.IsBundle n r bundle) (left : s.Stands l w)
    (right : s.Stands x v) (leftOfClass : w.OfClass) (rightOfClass : v.OfClass) :
    Simulates Session.Stands s (equateIn (callWithin (n + 4)) r l x) (bundle.equate w v) := by
  show Simulates _ s (operands.equateLifting (liftFor (callWithin (n + 4)) r) l x) _
  unfold Bundle.equate Operands.equateLifting
  refine Simulates.read (runIn_isNode left) (Simulates.read (runIn_isNode right) ?_)
  simp only [Operands.values_isNode, pure_bind]
  cases leftNode : w.isNode with
  | true =>
    cases rightNode : v.isNode with
    | true => exact equate_simulates order left right
    | false => exact equateWith_simulates order isBundle left leftNode leftOfClass right
  | false =>
    cases rightNode : v.isNode with
    | true => exact equateWith_simulates order isBundle right rightNode rightOfClass left
    | false =>
      have lifted := (liftFor_simulates order isBundle left (.inl rfl)).known
        (K := fun u => u.isNode = true ∧ u.OfClass) fun u ends => by
          obtain ⟨_, n, -, rfl⟩ := (Bundle.lift_absent_raw_eq_ok_iff leftNode).mp ends
          exact ⟨rfl, leftOfClass.lift ends⟩
      refine lifted.bind fun s₁ q u extended order₁ known => ?_
      obtain ⟨stands, isNode, ofClass⟩ := known
      exact equateWith_simulates order₁ (isBundle.extended extended order.toClosed) stands isNode ofClass
        (right.extended extended order.toClosed)

/-- What a comparison in a bundle comes to is of a class. -/
theorem ofClass_of_bundle {u : Value} (equated : (bundle.equate w v).result = .ok u) : u.OfClass := by
  obtain ⟨type, n, n', -, -, rfl⟩ := Bundle.equate_eq_ok_iff.mp equated
  exact Value.ofClass_node rfl rfl

/-- A bundle that is asked to compare two objects does as it does with their values. -/
theorem requestEquate_simulates (order : s.InOrder) (isBundle : s.IsBundle n r bundle) (left : s.Stands l w)
    (right : s.Stands x v) (leftOfClass : w.OfClass) (rightOfClass : v.OfClass) :
    Simulates (fun s' q u => s'.Stands q u ∧ u.OfClass) s (request (callWithin (n + 6)) r .equate [l, x])
      (bundle.equate w v) := by
  obtain ⟨m, d, object⟩ := isBundle.isObject
  refine scope_simulates (n := n + 4) order .equate [l, x] (by simp [StandingClass.offers]) object rfl
    (Nat.le_refl 2) (Nat.le_refl 2) fun s₁ extended order₁ => ?_
  refine Simulates.known ?_ fun u => ofClass_of_bundle
  exact equateIn_simulates order₁ (isBundle.extended extended order.toClosed)
    (left.extended extended order.toClosed) (right.extended extended order.toClosed) leftOfClass rightOfClass

/-- A bundle that is asked to join two objects does as it does with their values. -/
theorem requestConjoin_simulates (order : s.InOrder) (isBundle : s.IsBundle n r bundle) (left : s.Stands l w)
    (right : s.Stands x v) :
    Simulates (fun s' q u => s'.Stands q u ∧ u.OfClass) s (request (callWithin (n + 6)) r .conjoin [l, x])
      (bundle.conjoin w v) := by
  obtain ⟨m, d, object⟩ := isBundle.isObject
  refine scope_simulates (n := n + 4) order .conjoin [l, x] (by simp [StandingClass.offers]) object rfl
    (Nat.le_refl 2) (Nat.le_refl 2) fun s₁ extended order₁ => ?_
  refine Simulates.known ?_ fun u => Value.ofClass_of_conjoin
  exact conjoin_simulates order₁ (left.extended extended order.toClosed)
    (right.extended extended order.toClosed)

end Comparisons

end SessionM

end FilterAlgebra
