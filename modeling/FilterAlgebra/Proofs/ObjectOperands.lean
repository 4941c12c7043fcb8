import FilterAlgebra.Proofs.Simulation
import FilterAlgebra.Node.Ampersand
import FilterAlgebra.Bundle

/-!
# Objects that stand for values

An object stands for a value, `Session.Stands`, if the value is what it is at the moment
and the outside view of the two agrees: whether it is a node, what its class is called,
and which semantic type a node has. It goes on standing for the value while the session
grows. The rules for joins only take the outside view, so the comparison, the
conjunction and the check of what a builder came back with do on objects what they do
on the values that the objects stand for.
-/

set_option autoImplicit false

namespace FilterAlgebra

/-- Whether what an object of the given content shows is looked for in the object and its class. -/
def Content.isDirect : Content → Bool
  | type _ | method .. | containerOf .. => false
  | _ => true

namespace Session

variable {s s' : Session}

/-- The semantic type of an object: what it has of its own, else a class that its class keeps. An
object with neither has none. What is a class is the only object for it. -/
inductive HasType (s : Session) (r : Ref) : Except Fault SemanticType → Prop
  | own {q : Ref} (found : s.attribute? r Attribute.semanticType = some q)
      (only : ∀ id, s.content q = .type id → s.IsClass q id) : HasType s r (.ok (s.typeOf q))
  | kept {id : ClassId} (lacks : s.attribute? r Attribute.semanticType = none)
      (keeps : s.KeepsClass (s.classOf r) Attribute.semanticType id) : HasType s r (.ok (s.classType id))
  | missing (lacks : s.attribute? r Attribute.semanticType = none)
      (keepsNone : s.slot? (s.classOf r) Attribute.semanticType = none) :
      HasType s r (.error (.missingAttribute (s.holder r) Attribute.semanticType))

/-- An object stands for a value. -/
structure Stands (s : Session) (r : Ref) (v : Value) : Prop where
  lt : r < s.cells.size
  value : s.value r = v
  isNode : s.isNode r = v.isNode
  className : s.className r = v.className
  typed : v.isNode = true →
    ∃ id, s.content r = .object id ∧ s.isBelow id .model = false ∧ s.HasType r v.semanticType

/-- An object has the semantic type that it had. -/
theorem HasType.extended {r : Ref} {type : Except Fault SemanticType} (h : s.HasType r type)
    (extended : s.ExtendedBy s') (closed : s.Closed) (lt : r < s.cells.size) : s'.HasType r type := by
  have own := extended.attribute?_eq closed lt Attribute.semanticType
  have classes := extended.classOf_eq lt
  cases h with
  | own found only =>
    have there := closed.attribute?_lt found
    rw [← extended.typeOf_eq closed there]
    refine .own (own.trans found) fun id content => (only id ?_).extended extended
    rw [← extended.content_eq there, content]
  | kept lacks keeps =>
    rw [← extended.classType_eq closed]
    exact .kept (own.trans lacks) (classes ▸ keeps.extended extended)
  | missing lacks keepsNone =>
    rw [← extended.holder_eq lt]
    exact .missing (own.trans lacks) (by rw [extended.slot?_eq, classes, keepsNone])

/-- An object goes on standing for a value. -/
theorem Stands.extended {r : Ref} {v : Value} (h : s.Stands r v) (extended : s.ExtendedBy s')
    (closed : s.Closed) : s'.Stands r v where
  lt := h.lt.trans_le extended.size
  value := by rw [extended.value_eq closed h.lt, h.value]
  isNode := by rw [extended.isNode_eq h.lt, h.isNode]
  className := by rw [extended.className_eq h.lt, h.className]
  typed node := by
    obtain ⟨id, content, below, type⟩ := h.typed node
    exact ⟨id, by rw [extended.content_eq h.lt, content], by rw [extended.isBelow_eq, below],
      type.extended extended closed h.lt⟩

end Session

namespace SessionM

variable {s : Session}

section Attributes

/-- What an object shows is looked for in the object and its class. -/
theorem runIn_attributeOf_direct {r : Ref} (direct : (s.content r).isDirect = true) (name : String) :
    (attributeOf r name).runIn s = (objectAttribute r name).runIn s := by
  rw [attributeOf, runIn_get_bind]
  cases content : s.content r <;> simp_all [Content.isDirect]

/-- An object shows what it has of its own. -/
theorem runIn_attributeOf_own {r q : Ref} {name : String} (direct : (s.content r).isDirect = true)
    (ordinary : name ≠ Attribute.ofClass ∧ name ≠ Attribute.all) (found : s.attribute? r name = some q) :
    (attributeOf r name).runIn s = (.ok q, s) := by
  rw [runIn_attributeOf_direct direct, objectAttribute, runIn_get_bind, if_neg ordinary.1, found]
  simp [ordinary.2]

/-- An object that has nothing of its own under a name shows what its class keeps there. -/
theorem runIn_attributeOf_kept {r q : Ref} {owner : ClassId} {name : String}
    (direct : (s.content r).isDirect = true) (ordinary : name ≠ Attribute.ofClass ∧ name ≠ Attribute.all)
    (lacks : s.attribute? r name = none) (kept : s.slot? (s.classOf r) name = some (owner, .declared q)) :
    (attributeOf r name).runIn s = (presented r q).runIn s := by
  rw [runIn_attributeOf_direct direct, objectAttribute, runIn_get_bind, if_neg ordinary.1, lacks, kept]
  simp [ordinary.2, slotObject]

/-- What a class keeps is shown as it is, unless it is a function or a member. -/
theorem runIn_presented {r q : Ref} (noFunction : ∀ f, s.content q ≠ .function f)
    (noMember : ∀ m, s.content q ≠ .member m) : (presented r q).runIn s = (.ok q, s) := by
  rw [presented, runIn_get_bind]
  cases content : s.content q <;> simp_all

/-- An object of a class that has nothing under a name, nor has its class, says so. Models say it in
another way. -/
theorem runIn_attributeOf_missing {r : Ref} {id : ClassId} {name : String} (content : s.content r = .object id)
    (ordinary : name ≠ Attribute.ofClass ∧ name ≠ Attribute.all) (noModel : s.isBelow id .model = false)
    (lacks : s.attribute? r name = none) (keepsNone : s.slot? (s.classOf r) name = none) :
    (attributeOf r name).runIn s = (.error ⟨.fault (.missingAttribute (s.holder r) name), none⟩, s) := by
  rw [runIn_attributeOf_direct (content ▸ rfl), objectAttribute, runIn_get_bind, if_neg ordinary.1, lacks,
    keepsNone]
  simp only [ordinary.2, decide_false, Bool.false_and, Bool.false_eq_true, if_false]
  rw [failUnshown, runIn_get_bind, content]
  simp only [noModel, Bool.false_eq_true, if_false]
  rfl

/-- The name of semantic types is no name that objects have from the language. -/
theorem semanticType_ordinary :
    Attribute.semanticType ≠ Attribute.ofClass ∧ Attribute.semanticType ≠ Attribute.all := by
  decide

/-- A node shows the object for its type, or says that it has none. -/
theorem runIn_typeAttribute {r : Ref} {id : ClassId} {type : Except Fault SemanticType}
    (content : s.content r = .object id) (noModel : s.isBelow id .model = false) (h : s.HasType r type) :
    (∃ q, (attributeOf r Attribute.semanticType).runIn s = (.ok q, s) ∧ type = .ok (s.typeOf q) ∧
      ∀ id, s.content q = .type id → s.IsClass q id) ∨
    ∃ f, (attributeOf r Attribute.semanticType).runIn s = (.error ⟨.fault f, none⟩, s) ∧ type = .error f := by
  have direct : (s.content r).isDirect = true := content ▸ rfl
  cases h with
  | @own q found only => exact .inl ⟨q, runIn_attributeOf_own direct semanticType_ordinary found, rfl, only⟩
  | @kept classId lacks keeps =>
    obtain ⟨owner, q, slot, isClass⟩ := keeps
    have shown := runIn_attributeOf_kept direct semanticType_ordinary lacks slot
    rw [runIn_presented (by simp [isClass.content_eq]) (by simp [isClass.content_eq])] at shown
    refine .inl ⟨q, shown, by rw [isClass.typeOf], fun id' content' => ?_⟩
    obtain rfl : classId = id' := Content.type.inj (isClass.content_eq.symm.trans content')
    exact isClass
  | missing lacks keepsNone =>
    exact .inr ⟨_, runIn_attributeOf_missing content semanticType_ordinary noModel lacks keepsNone, rfl⟩

/-- The type of a node is asked for without anything being done to the session. -/
theorem runIn_semanticTypeOf {r : Ref} {id : ClassId} {type : Except Fault SemanticType}
    (content : s.content r = .object id) (noModel : s.isBelow id .model = false) (h : s.HasType r type) :
    (semanticTypeOf r).runIn s = (type.mapError (⟨.fault ·, none⟩), s) := by
  unfold semanticTypeOf
  obtain ⟨q, shown, rfl, -⟩ | ⟨f, shown, rfl⟩ := runIn_typeAttribute content noModel h
  · rw [runIn_bind_of_ok shown]
    rfl
  · rw [runIn_bind, shown]
    rfl

end Attributes

section Operands

variable {r : Ref} {v : Value}

/-- Whether an object is a node is what it is of its value. -/
theorem runIn_isNode (h : s.Stands r v) : (operands.isNode r).runIn s = (.ok v.isNode, s) := by
  rw [← h.isNode]
  rfl

/-- The name of the class of an object is that of the class of its value. -/
theorem runIn_className (h : s.Stands r v) : (operands.className r).runIn s = (.ok v.className, s) := by
  rw [← h.className]
  rfl

/-- Looking at an object gives its value. -/
theorem runIn_look (h : s.Stands r v) : (operands.look r).runIn s = (.ok v, s) := by
  rw [← h.value]
  rfl

/-- Asking a node for its type is asking its value. -/
theorem typeOf_simulates (order : s.InOrder) (h : s.Stands r v) (node : v.isNode = true) :
    Simulates (fun _ a b => a = b) s (operands.typeOf r) (Operands.values.typeOf v) := by
  obtain ⟨id, content, noModel, type⟩ := h.typed node
  have silent := runIn_semanticTypeOf content noModel type
  show Simulates _ s (semanticTypeOf r) (Traced.ofFault v.semanticType)
  cases outcome : v.semanticType with
  | ok t =>
    rw [outcome] at silent
    exact ⟨_, s, silent, growsTo_refl order, .result rfl⟩
  | error f =>
    rw [outcome] at silent
    have blames : Setback.Blames ⟨.fault f, none⟩ s := nofun
    exact ⟨_, s, silent, growsTo_refl order, .failure blames⟩

/-- Refusing an object is refusing its value. -/
theorem refuse_simulates {α β : Type} {R : Session → α → β → Prop} (order : s.InOrder) (h : s.Stands r v)
    (why : Refusal) (target : Option SemanticType) :
    Simulates R s (operands.refuse r why target) (Operands.values.refuse v why target) := by
  refine ⟨_, s, runIn_refuse r why target s, growsTo_refl order, ?_⟩
  rw [h.value]
  have blames : Setback.Blames ⟨.refused why v target none, some r⟩ s := by
    intro q same
    obtain rfl : r = q := by simpa using same
    exact ⟨h.lt, why, target, none, by rw [h.value]⟩
  exact .failure blames

/-- A check on objects is the check on values. -/
theorem check_simulates {α : Type} (order : s.InOrder) (outcome : Except Fault α) :
    Simulates (fun _ a b => a = b) s (operands.check outcome) (Operands.values.check outcome) :=
  Simulates.ofTraced order (Traced.ofFault outcome)

end Operands

end SessionM

namespace StandingClass

variable {c : StandingClass} {kind : PropertyKind} {t : SemanticType}

/-- The kinds of properties with a type that the library has classes for. -/
def typedKinds : List PropertyKind :=
  [.integer, .text, .double, .boolean, .decimal]

/-- A class of properties with a type is that of one of these kinds. -/
theorem mem_typedKinds (known : c.propertyKind? = some kind) (typed : kind.type? = some t) :
    kind ∈ typedKinds ∧ ofProperty kind = c := by
  have listed := List.mem_of_find?_eq_some known
  simp only [List.mem_cons, List.not_mem_nil, or_false] at listed
  refine ⟨?_, by simpa using List.find?_some known⟩
  obtain rfl | rfl | rfl | rfl | rfl | rfl := listed <;> simp_all [typedKinds, PropertyKind.type?]

/-- Such a class is one of nodes that keeps the type, which is a built-in class. -/
theorem propertyClass (known : c.propertyKind? = some kind) (typed : kind.type? = some t) :
    ofId? c.id = some c ∧ c.type? = some t ∧ Hierarchy.builtIn? (builtIn t) = some t ∧ c.name = kind.className ∧
      ((Hierarchy.standing (α := Ref)).lineage c.id).contains expression.id = true ∧
      ((Hierarchy.standing (α := Ref)).lineage c.id).contains property.id = true ∧
      ((Hierarchy.standing (α := Ref)).lineage c.id).contains model.id = false := by
  have all : ∀ kind ∈ typedKinds, ∀ t ∈ kind.type?,
      ofId? (ofProperty kind).id = some (ofProperty kind) ∧ (ofProperty kind).type? = some t ∧
        Hierarchy.builtIn? (builtIn t) = some t ∧ (ofProperty kind).name = kind.className ∧
        ((Hierarchy.standing (α := Ref)).lineage (ofProperty kind).id).contains expression.id = true ∧
        ((Hierarchy.standing (α := Ref)).lineage (ofProperty kind).id).contains property.id = true ∧
        ((Hierarchy.standing (α := Ref)).lineage (ofProperty kind).id).contains model.id = false := by
    decide +kernel
  obtain ⟨member, rfl⟩ := mem_typedKinds known typed
  exact all kind member t typed

end StandingClass

namespace Session

variable {s s' : Session}

/-- An object with a class for its own semantic type has that type. -/
theorem IsClass.hasType {r q : Ref} {id : ClassId} (h : s.IsClass q id)
    (found : s.attribute? r Attribute.semanticType = some q) : s.HasType r (.ok (s.classType id)) := by
  rw [← h.typeOf]
  refine .own found fun id' content => ?_
  obtain rfl : id = id' := Content.type.inj (h.content_eq.symm.trans content)
  exact h

section NewNodes

variable {c : StandingClass} {attributes : Table Ref} {n : Node} {read : Snapshot.Reader} {path : List Ref}
  {r q : Ref}

/-- A class among the attributes of an object is the type that the object is read with. -/
theorem IsClass.nodeType?_eq {id : ClassId} (h : s.IsClass q id)
    (found : s.attribute? r Attribute.semanticType = some q) :
    Snapshot.nodeType? s read path r = some (s.classType id) := by
  rw [Snapshot.nodeType?, part?, found]
  show some (Snapshot.typeOf s read path q) = _
  rw [Snapshot.typeOf, h.content_eq]

/-- A plain text among the attributes of an object is read as it is. -/
theorem IsPlain.plainText?_eq {text name : String} (h : s.IsPlain q (.atom (.str text)))
    (found : s.attribute? r name = some q) : Snapshot.plainText? s r name = some text := by
  have characters : s.text? q = some (.plain text) := by rw [text?, h.content_eq]
  simp only [Snapshot.plainText?, found, Option.bind_eq_bind, Option.bind_some, characters, h.below?_eq]
  rfl

/-- A new object of a class of nodes stands for the node that is read off it. -/
theorem stands_withNode (order : s.InOrder) (refs : ∀ entry ∈ attributes, entry.2 < s.cells.size)
    (below : ((Hierarchy.standing (α := Ref)).lineage c.id).contains StandingClass.expression.id = true)
    (noModel : ((Hierarchy.standing (α := Ref)).lineage c.id).contains StandingClass.model.id = false)
    (name : c.name = n.className)
    (reads : ∀ read : Snapshot.Reader, (∀ q < s.cells.size, read [s.cells.size] q = s.value q) →
      Snapshot.node? (s.withObject { content := .object c.id, attributes }) read [s.cells.size]
        s.cells.size c.id = some n)
    (typed : (s.withObject { content := .object c.id, attributes }).HasType s.cells.size
      (Value.node n).semanticType) :
    (s.withObject { content := .object c.id, attributes }).Stands s.cells.size (.node n) := by
  let cell : Cell := { content := .object c.id, attributes }
  have there : (Hierarchy.standing (α := Ref)).lineage c.id ≠ [] := by
    intro empty
    simp [empty] at below
  have cellRefs : ∀ q ∈ cell.refs, q < s.cells.size := by
    intro q member
    obtain ⟨entry, found, rfl⟩ : ∃ entry ∈ attributes, entry.2 = q := by
      simpa [cell, Cell.refs, Content.refs] using member
    exact refs entry found
  have order' : (s.withObject cell).InOrder := order.withObject cellRefs
  have content : (s.withObject cell).content s.cells.size = .object c.id := content_withObject_new cell
  have kind : (s.withObject cell).below? s.cells.size = none := below?_withObject_new cell
  have classOf : (s.withObject cell).classOf s.cells.size = c.id := by
    simp [Session.classOf, kind, content, classOfContent]
  refine ⟨by simp, ?_, ?_, ?_, fun _ => ⟨c.id, content, by rw [order'.isBelow_eq there, noModel], typed⟩⟩
  · have agree : ∀ q < s.cells.size,
        Snapshot.readWithin (s.withObject cell) (2 * (s.cells.size + 1) + 1) [s.cells.size] q = s.value q :=
      fun q lt => (s.extendedBy_withObject cell).readWithin_eq_value order.toClosed (by omega) (by simp) lt
    have depth : (s.withObject cell).depth = 2 * (s.cells.size + 1) + 1 + 1 := by simp [Session.depth]
    rw [value, depth, Snapshot.readWithin]
    simp only [List.contains_nil, Bool.false_eq_true, if_false, Snapshot.assemble, kind, Snapshot.contentValue,
      content, cell, reads _ agree]
  · have made : (s.withObject cell).madeOf? s.cells.size = some c.id := by simp only [madeOf?, content]
    show (s.withObject cell).isNode s.cells.size = true
    rw [isNode, made, Option.any_some, order'.isBelow_eq there, below]
  · rw [className, classOf, order'.names, name]
    rfl

/-- A new join stands for the join of what its operands stand for. -/
theorem stands_withBinary (order : s.InOrder) {l r sign type : Ref} {v w : Value} {word : String}
    (left : s.Stands l v) (right : s.Stands r w) (isSign : s.IsPlain sign (.atom (.str word)))
    (isType : s.IsClass type (StandingClass.builtIn .bool)) :
    (s.withObject { content := .object StandingClass.binary.id, attributes :=
      [(Attribute.left, l), (Attribute.sign, sign), (Attribute.right, r),
       (Attribute.semanticType, type)] }).Stands s.cells.size (.node (.binary v word w .bool)) := by
  let attributes : Table Ref :=
    [(Attribute.left, l), (Attribute.sign, sign), (Attribute.right, r), (Attribute.semanticType, type)]
  let s' := s.withObject { content := .object StandingClass.binary.id, attributes }
  have extended : s.ExtendedBy s' := s.extendedBy_withObject _
  have own : ∀ name, s'.attribute? s.cells.size name = Table.get? attributes name := fun name => by
    rw [attribute?, attributes_withObject_new]
  have ownType : s'.attribute? s.cells.size Attribute.semanticType = some type := own _
  have ofClass? : StandingClass.ofId? StandingClass.binary.id = some .binary := by decide
  have noProperty : StandingClass.binary.propertyKind? = none := by decide
  refine stands_withNode order ?_ (by decide +kernel) (by decide +kernel) rfl (fun read agree => ?_)
    ((isType.extended extended).hasType ownType)
  · intro entry member
    obtain rfl | rfl | rfl | rfl : entry = (Attribute.left, l) ∨ entry = (Attribute.sign, sign) ∨
        entry = (Attribute.right, r) ∨ entry = (Attribute.semanticType, type) := by simpa using member
    · exact left.lt
    · exact isSign.lt
    · exact right.lt
    · exact isType.lt
  · have readLeft : Snapshot.own? s' read [s.cells.size] s.cells.size Attribute.left = some v := by
      rw [Snapshot.own?, own]
      exact congrArg some ((agree l left.lt).trans left.value)
    have readRight : Snapshot.own? s' read [s.cells.size] s.cells.size Attribute.right = some w := by
      rw [Snapshot.own?, own]
      exact congrArg some ((agree r right.lt).trans right.value)
    have readSign : Snapshot.plainText? s' s.cells.size Attribute.sign = some word :=
      (isSign.extended extended).plainText?_eq (own _)
    have readType : Snapshot.nodeType? s' read [s.cells.size] s.cells.size = some .bool :=
      (isType.extended extended).nodeType?_eq ownType
    show Snapshot.node? s' read [s.cells.size] s.cells.size StandingClass.binary.id = _
    simp only [Snapshot.node?, ofClass?, noProperty, readLeft, readRight, readSign, readType,
      Option.bind_eq_bind, Option.bind_some]
    rfl

/-- A new literal stands for the literal of its type and text. -/
theorem stands_withLiteral (order : s.InOrder) {type text : Ref} {id : ClassId} {word : String}
    (isType : s.IsClass type id) (isText : s.IsPlain text (.atom (.str word))) :
    (s.withObject { content := .object StandingClass.literal.id, attributes :=
      [(Attribute.semanticType, type), (Attribute.text, text)] }).Stands s.cells.size
        (.node (.literal (s.classType id) word)) := by
  let attributes : Table Ref := [(Attribute.semanticType, type), (Attribute.text, text)]
  let s' := s.withObject { content := .object StandingClass.literal.id, attributes }
  have extended : s.ExtendedBy s' := s.extendedBy_withObject _
  have own : ∀ name, s'.attribute? s.cells.size name = Table.get? attributes name := fun name => by
    rw [attribute?, attributes_withObject_new]
  have ownType : s'.attribute? s.cells.size Attribute.semanticType = some type := own _
  have ofClass? : StandingClass.ofId? StandingClass.literal.id = some .literal := by decide
  have noProperty : StandingClass.literal.propertyKind? = none := by decide
  have sameType : s'.classType id = s.classType id := extended.classType_eq order.toClosed id
  rw [← sameType]
  refine stands_withNode order ?_ (by decide +kernel) (by decide +kernel) rfl (fun read agree => ?_)
    ((isType.extended extended).hasType ownType)
  · intro entry member
    obtain rfl | rfl : entry = (Attribute.semanticType, type) ∨ entry = (Attribute.text, text) := by
      simpa using member
    · exact isType.lt
    · exact isText.lt
  · have readText : Snapshot.plainText? s' s.cells.size Attribute.text = some word :=
      (isText.extended extended).plainText?_eq (own _)
    have readType : Snapshot.nodeType? s' read [s.cells.size] s.cells.size = some (s'.classType id) :=
      (isType.extended extended).nodeType?_eq ownType
    show Snapshot.node? s' read [s.cells.size] s.cells.size StandingClass.literal.id = _
    simp only [Snapshot.node?, ofClass?, noProperty, readText, readType, Option.bind_eq_bind, Option.bind_some]
    rfl

end NewNodes

section Properties

variable {r q : Ref} {c : StandingClass}

/-- An object with a name, of a class of properties with a type, stands for the property. -/
theorem IsObject.stands_property {kind : PropertyKind} {t : SemanticType} {name : String} (order : s.InOrder)
    (object : s.IsObject r c [(Attribute.name, q)]) (isText : s.IsPlain q (.atom (.str name)))
    (known : c.propertyKind? = some kind) (typed : kind.type? = some t) :
    s.Stands r (.node (.property kind (.plain name))) := by
  obtain ⟨ofId, type, isBuiltIn, className, isExpression, isProperty, noModel⟩ := StandingClass.propertyClass known typed
  have there : (Hierarchy.standing (α := Ref)).lineage c.id ≠ [] := by
    intro empty
    simp [empty] at isExpression
  have made : s.madeOf? r = some c.id := by simp only [madeOf?, object.content_eq]
  have property : s.property? r = some (.plain name) := by
    have characters : s.text? q = some (.plain name) := by rw [text?, isText.content_eq]
    have own : s.attribute? r Attribute.name = some q := object.attribute?_eq _
    rw [property?, made]
    simp only [order.isBelow_eq there, isProperty, if_true, own, Option.bind_some, characters]
  have same : s.classType (StandingClass.builtIn t) = t := by
    rw [classType, isBuiltIn]
  have semantic : (Value.node (.property kind (.plain name))).semanticType = .ok t :=
    Value.semanticType_node_eq_ok.mpr typed
  refine ⟨object.lt, ?_, ?_, ?_, fun _ => ⟨c.id, object.content_eq, by rw [order.isBelow_eq there, noModel], ?_⟩⟩
  · rw [value_eq_contentValue object.below?_eq]
    simp only [Snapshot.contentValue, object.content_eq, Snapshot.node?, ofId, known, property,
      Option.bind_eq_bind, Option.bind_some]
    rfl
  · rw [isNode, made, Option.any_some, order.isBelow_eq there, isExpression]
    rfl
  · rw [object.className_eq order, className]
    rfl
  · rw [semantic, ← same]
    refine .kept (object.attribute?_eq _) ?_
    rw [object.classOf_eq]
    exact order.types c t type

end Properties

end Session

namespace SessionM

variable {s : Session}

section Makes

/-- An object for a value that refers to no others has the value for its content. -/
theorem newAtom_makes (order : s.InOrder) {v : Value}
    (told : ∀ key, Shared.ofValue? v = some key → key.content? = some (.atom v)) :
    Makes (fun s' r => s'.IsPlain r (.atom v)) s (newAtom v) := by
  unfold newAtom
  split
  · rename_i key known
    exact Makes.sharedObject order (told key known) nofun
  · exact Makes.newPlain order nofun

/-- An object for a plain text is one. -/
theorem newText_makes (order : s.InOrder) (text : String) :
    Makes (fun s' r => s'.IsPlain r (.atom (.str text))) s (newText text) := by
  refine newAtom_makes order fun key known => ?_
  have same : Shared.shortText text = key := by
    by_cases short : Shared.isShort text <;> simp_all [Shared.ofValue?]
  rw [← same]
  rfl

/-- The object for a word that is written by a rule is a plain text. -/
theorem wordObject_makes (order : s.InOrder) (word : String) :
    Makes (fun s' r => s'.IsPlain r (.atom (.str word))) s (wordObject word) := by
  unfold wordObject
  split
  · exact newText_makes order word
  · exact Makes.sharedObject order rfl nofun

/-- A new join stands for the join of what its operands stand for. -/
theorem newBinary_makes (order : s.InOrder) {l r sign type : Ref} {v w : Value} {word : String}
    (left : s.Stands l v) (right : s.Stands r w) (isSign : s.IsPlain sign (.atom (.str word)))
    (isType : s.IsClass type (StandingClass.builtIn .bool)) :
    Makes (fun s' j => s'.Stands j (.node (.binary v word w .bool))) s (newBinary l sign r type) := by
  refine (Makes.newObject order ?_).imp ?_
  · intro q member
    obtain rfl | rfl | rfl | rfl : q = l ∨ q = sign ∨ q = r ∨ q = type := by
      simpa [Cell.refs, Content.refs] using member
    · exact left.lt
    · exact isSign.lt
    · exact right.lt
    · exact isType.lt
  · rintro s' j - - ⟨rfl, rfl⟩
    exact Session.stands_withBinary order left right isSign isType

/-- A new literal stands for the literal of its type and text. -/
theorem newLiteral_makes (order : s.InOrder) {type text : Ref} {id : ClassId} {word : String}
    (isType : s.IsClass type id) (isText : s.IsPlain text (.atom (.str word))) :
    Makes (fun s' r => s'.Stands r (.node (.literal (s.classType id) word))) s (newLiteral type text) := by
  refine (Makes.newObject order ?_).imp ?_
  · intro q member
    obtain rfl | rfl : q = type ∨ q = text := by simpa [Cell.refs, Content.refs] using member
    · exact isType.lt
    · exact isText.lt
  · rintro s' r - - ⟨rfl, rfl⟩
    exact Session.stands_withLiteral order isType isText

/-- Joining two objects is joining what they stand for. -/
theorem join_makes (order : s.InOrder) {l r : Ref} {v w : Value} (left : s.Stands l v) (right : s.Stands r w)
    (sign : String) :
    Makes (fun s' j => s'.Stands j (.node (.binary v sign w .bool))) s (operands.join l sign r) := by
  refine (wordObject_makes order sign).bind fun s₁ word extended₁ order₁ isSign => ?_
  refine (Makes.classObject order₁ _).bind fun s₂ type extended₂ order₂ isType => ?_
  have extended := extended₁.trans extended₂
  exact newBinary_makes order₂ (left.extended extended order.toClosed) (right.extended extended order.toClosed)
    (isSign.extended extended₂) isType

end Makes

section Rules

variable {l r : Ref} {v w : Value}

/-- The check that an operand of a comparison is an expression, on an object and on its value. It lets
nodes pass only. -/
theorem requireNode_simulates (order : s.InOrder) (h : s.Stands r v) :
    Simulates (fun _ _ _ => v.isNode = true) s (operands.requireNode r) (Operands.values.requireNode v) := by
  refine Simulates.read (runIn_isNode h) ?_
  simp only [Operands.requireNode, Operands.values_isNode, pure_bind]
  cases node : v.isNode with
  | true => exact .pure order rfl
  | false => exact .read (runIn_className h) (refuse_simulates order h _ _)

/-- A comparison of two objects is that of their values. -/
theorem equate_simulates (order : s.InOrder) (left : s.Stands l v) (right : s.Stands r w) :
    Simulates Session.Stands s (operands.equate l r) (Node.equate v w) := by
  refine (requireNode_simulates order left).bind fun s₁ _ _ extended₁ order₁ leftNode => ?_
  have left₁ := left.extended extended₁ order.toClosed
  have right₁ := right.extended extended₁ order.toClosed
  refine (requireNode_simulates order₁ right₁).bind fun s₂ _ _ extended₂ order₂ rightNode => ?_
  have left₂ := left₁.extended extended₂ order₁.toClosed
  have right₂ := right₁.extended extended₂ order₁.toClosed
  refine (typeOf_simulates order₂ left₂ leftNode).bind fun s₃ t _ extended₃ order₃ same => ?_
  subst same
  have left₃ := left₂.extended extended₃ order₂.toClosed
  have right₃ := right₂.extended extended₃ order₂.toClosed
  refine (typeOf_simulates order₃ right₃ rightNode).bind fun s₄ u _ extended₄ order₄ same => ?_
  subst same
  have left₄ := left₃.extended extended₄ order₃.toClosed
  have right₄ := right₃.extended extended₄ order₃.toClosed
  by_cases agree : t = u
  · simp only [agree, if_true]
    exact (join_makes order₄ left₄ right₄ _).simulates
  · simp only [agree, if_false]
    refine (check_simulates order₄ t.name).bind fun s₅ a _ extended₅ order₅ same => ?_
    subst same
    have right₅ := right₄.extended extended₅ order₄.toClosed
    refine (check_simulates order₅ u.name).bind fun s₆ b _ extended₆ order₆ same => ?_
    subst same
    exact refuse_simulates order₆ (right₅.extended extended₆ order₅.toClosed) _ _

/-- The check that an operand is a filter, on an object and on its value. -/
theorem requireFilter_simulates (order : s.InOrder) (h : s.Stands r v) (reason : String → Refusal) :
    Simulates (fun _ _ _ => True) s (operands.requireFilter reason r)
      (Operands.values.requireFilter reason v) := by
  refine Simulates.read (runIn_isNode h) ?_
  simp only [Operands.requireFilter, Operands.values_isNode, pure_bind]
  cases node : v.isNode with
  | true =>
    refine (typeOf_simulates order h node).bind fun s₁ t _ extended order₁ same => ?_
    subst same
    have h₁ := h.extended extended order.toClosed
    by_cases isBool : t = .bool
    · simp only [isBool, if_true]
      exact .pure order₁ trivial
    · simp only [isBool, if_false]
      refine (check_simulates order₁ t.name).bind fun s₂ a _ extended₂ order₂ same => ?_
      subst same
      exact refuse_simulates order₂ (h₁.extended extended₂ order₁.toClosed) _ _
  | false => exact .read (runIn_className h) (refuse_simulates order h _ _)

/-- A conjunction of two objects is that of their values. -/
theorem conjoin_simulates (order : s.InOrder) (left : s.Stands l v) (right : s.Stands r w) :
    Simulates Session.Stands s (operands.conjoin l r) (Node.conjoin v w) := by
  refine (requireFilter_simulates order left _).bind fun s₁ _ _ extended₁ order₁ _ => ?_
  have left₁ := left.extended extended₁ order.toClosed
  have right₁ := right.extended extended₁ order.toClosed
  refine (requireFilter_simulates order₁ right₁ _).bind fun s₂ _ _ extended₂ order₂ _ => ?_
  have left₂ := left₁.extended extended₂ order₁.toClosed
  have right₂ := right₁.extended extended₂ order₁.toClosed
  exact (join_makes order₂ left₂ right₂ _).simulates

/-- What a builder came back with is checked as its value. -/
theorem ensureFilter_simulates (order : s.InOrder) (h : s.Stands r v) :
    Simulates Session.Stands s (operands.ensureFilter r) (Node.ensureFilter v) := by
  refine (requireFilter_simulates order h _).bind fun s₁ _ _ extended order₁ _ => ?_
  exact .pure order₁ (h.extended extended order.toClosed)

/-- A builder on objects builds what it does on values. -/
theorem buildFilter_simulates (order : s.InOrder) (opening : Record) {builder : SessionM Ref}
    {builder' : Traced Value}
    (h : ∀ s', s.ExtendedBy s' → s'.InOrder → Simulates Session.Stands s' builder builder') :
    Simulates Session.Stands s (operands.buildFilter opening builder)
      (Operands.values.buildFilter opening builder') := by
  refine (Simulates.ofTraced order (Traced.emit opening)).bind fun s₁ _ _ extended order₁ _ => ?_
  refine (h s₁ extended order₁).bind fun s₂ r v _ order₂ built => ?_
  exact ensureFilter_simulates order₂ built

end Rules

end SessionM

end FilterAlgebra
