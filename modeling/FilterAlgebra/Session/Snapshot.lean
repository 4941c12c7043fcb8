import FilterAlgebra.Node.Rendering
import FilterAlgebra.Session.State

/-!
# Snapshots

A snapshot is the value that an object is at the moment, with all it refers to. It is
read off the cells. Each object on the way down is remembered, and where one is met
again the way ends in a mark, so the number of cells bounds the depth. Of objects
that are no values a snapshot keeps a handle, which tells how they are shown.
-/

set_option autoImplicit false

namespace FilterAlgebra

namespace Snapshot

/-- How objects on the way down are read: given those above, the value of one. -/
abbrev Reader := List Ref → Ref → Value

/-- The mark for an object that is met again within itself. -/
def mark : Content → String
  | .list _ => "[...]"
  | .tuple _ => "(...)"
  | .dict _ | .listing _ | .classListing _ => "\x7b...\x7d"
  | _ => "..."

section Reading

variable (s : Session) (read : Reader) (path : List Ref)

/-- The value of what an object has under a name, or the fault that it has nothing there. -/
def part (r : Ref) (name : String) : Except Fault Value :=
  (Fault.missingAttribute (s.holder r) name).ofOption ((s.part? r name).map (read path))

/-- The name of a function. -/
def functionName (r : Ref) : String :=
  match s.attribute? r Attribute.className, s.content r with
  | some name, _ => s.textOf name
  | none, .function f => f.action.name
  | none, _ => ""

/-- The name that an object has as a type. -/
def named (r : Ref) : Except Fault String :=
  match s.content r with
  | .type id => .ok (s.hierarchy.name id)
  | .containerOf type _ =>
    match s.content type with
    | .type id => .ok (s.hierarchy.name id)
    | _ => .error (.missingAttribute (s.holder type) Attribute.className)
  | .function _ => .ok (functionName s r)
  | .method f _ => .ok (functionName s f)
  | .member m | .boundMember m _ => .ok m.name
  | _ => do
    let name ← part s read path r Attribute.className
    name.display

/-- The handle of an object that is shown in a certain way, and in texts perhaps in another. -/
def handle (r : Ref) (shown displayed : Except Fault String) : Handle :=
  ⟨r, s.className r, s.holder r, named s read path r, shown, displayed⟩

/-- The type that an object is. -/
def typeOf (r : Ref) : SemanticType :=
  match s.content r with
  | .type id => s.classType id
  | .atom .none => .absent
  | _ =>
    let shown := (read path r).inspect
    .other (handle s read path r shown shown)

/-- The type of a node. -/
def nodeType? (r : Ref) : Option SemanticType :=
  (s.part? r Attribute.semanticType).map (typeOf s read path)

/-- The plain text that an own attribute of an object is. -/
def plainText? (r : Ref) (name : String) : Option String := do
  let part ← s.attribute? r name
  match s.text? part, s.below? part with
  | some (.plain t), none => return t
  | _, _ => none

/-- The value that an own attribute of an object is. -/
def own? (r : Ref) (name : String) : Option Value :=
  (s.attribute? r name).map (read path)

/-- An object of a class of nodes as a node, if its attributes are what they should be. -/
def node? (r : Ref) (id : ClassId) : Option Node := do
  let c ← StandingClass.ofId? id
  match c.propertyKind?, c with
  | some kind, _ => return .property kind (← s.property? r)
  | none, .literal =>
    return .literal (← nodeType? s read path r) (← plainText? s r Attribute.text)
  | none, .call =>
    return .call (← plainText? s r Attribute.name) (← own? s read path r Attribute.operand)
      (← nodeType? s read path r)
  | none, .binary =>
    return .binary (← own? s read path r Attribute.left) (← plainText? s r Attribute.sign)
      (← own? s read path r Attribute.right) (← nodeType? s read path r)
  | none, _ => none

/-- The options that an object has, in their order. -/
def options (r : Ref) : Table Ref :=
  (s.attributes r).filter fun (name, _) => name = QuoteStyle.markOption || name = QuoteStyle.doubledOption

/-- An object of a class as a style, if it has the two options of a style and no others in
their place. -/
def style? (r : Ref) (id : ClassId) : Option QuoteStyle :=
  match (options s r).map (·.1), (options s r).map (s.content ·.2) with
  | [first, second], [Content.atom (.text (.plain mark)), Content.atom (.bool doubled)] =>
    if id = StandingClass.style.id && first = QuoteStyle.markOption && second = QuoteStyle.doubledOption then
      (Validation.quoteMark (.str mark)).toOption.map fun mark => ⟨mark, doubled⟩
    else none
  | _, _ => none

/-- The inspection form of a list of what an object has under a name gives when
it is gone through. -/
def inspectItems (r : Ref) (name : String) : Except Fault String := do
  let v ← part s read path r name
  let items ← v.items
  (Value.list items).inspect

/-- The inspection form of what an object has under a name. -/
def inspectPart (r : Ref) (name : String) : Except Fault String := do
  let v ← part s read path r name
  v.inspect

/-- Names with the inspection forms of what an object has under them, with a
separator between them. -/
def inspectParts (r : Ref) (names : List String) (separator : String) : Except Fault String := do
  let fields ← names.mapM fun name => do return name ++ "=" ++ (← inspectPart s read path r name)
  return separator.intercalate fields

/-- The name that the target of an adapter has as a type. -/
def targetName (r : Ref) : Except Fault String :=
  match s.part? r Attribute.target with
  | some t => (typeOf s read path t).name
  | none => .error (.missingAttribute (s.holder r) Attribute.target)

/-- The inspection form of an object of a class as another class shows its objects. -/
def inspectAs (owner : StandingClass) (r : Ref) (id : ClassId) : Except Fault String := do
  match owner.fields?, owner with
  | some fields, _ => return s.qualifiedName id ++ "(" ++ (← inspectParts s read path r fields ", ") ++ ")"
  | none, .textCapability =>
    return s.hierarchy.name id ++ "(" ++ (← inspectParts s read path r [Attribute.style] ", ") ++ ")"
  | none, .rawAdapter => return owner.name ++ "(" ++ (← inspectPart s read path r Attribute.capability) ++ ")"
  | none, .identityAdapter => return owner.name ++ "(" ++ (← targetName s read path r) ++ ")"
  | none, .bundle => return owner.name ++ "(" ++ (← inspectItems s read path r Attribute.capabilities) ++ ")"
  | none, .adapterSet => return owner.name ++ "(" ++ (← inspectItems s read path r Attribute.adapters) ++ ")"
  | none, .model =>
    return s.hierarchy.name id ++ "(" ++ (← inspectParts s read path r ((options s r).map (·.1)) ", ") ++ ")"
  | none, _ => return s.hierarchy.name id ++ "()"

/-- The inspection form of an object that consists of attributes: its class says how it is shown. -/
def inspectObject (r : Ref) (id : ClassId) : Except Fault String :=
  match s.function? id .inspect with
  | some f => inspectAs s read path f.owner r id
  | none => .ok ("<" ++ s.fullName id ++ " object>")

/-- An object that consists of attributes as it appears in texts. -/
def displayObject (r : Ref) (id : ClassId) : Except Fault String :=
  if s.isBelow id .model then inspectParts s read path r ((options s r).map (·.1)) " "
  else inspectObject s read path r id

/-- A collection as it is shown: only one that can change and is of no class below goes without
the name of its class. -/
def inspectCollection (r : Ref) (items : List Ref) : Except Fault String := do
  let shown ← items.mapM fun item => (read path item).inspect
  let inside := Inspection.sequence "\x7b" shown "\x7d"
  let name := s.className r
  return if items.isEmpty then name ++ "()"
    else if s.classOf r = StandingClass.mutableSet.id then inside
    else name ++ "(" ++ inside ++ ")"

/-- What the content of an object is as a value, whatever the class of the object. -/
def contentValue (r : Ref) : Value :=
  match s.content r with
  | .atom v => v
  | .list items => .list (items.map (read path))
  | .tuple items => .tuple (items.map (read path))
  | .dict entries => .dict (entries.map (read path ·.1)) (entries.map (read path ·.2))
  | .listing entries => .listing (entries.map (s.textOf ·.1)) (entries.map (read path ·.2))
  | .classListing id => .listing ((s.listed id).map (·.1)) ((s.listed id).map (read path ·.2))
  | .collection _ items => shownAs (inspectCollection s read path r items)
  | .type id => .type (s.classType id)
  | .object id =>
    match node? s read path r id, style? s r id with
    | some n, _ => .node n
    | none, some style => .style style
    | none, none =>
      .object (handle s read path r (inspectObject s read path r id) (displayObject s read path r id))
  | .function f => shownAs (.ok ("<function " ++ s.functionName r f ++ ">"))
  | .method f self => shownAs do
    let self ← (read path self).inspect
    return "<bound method " ++ name f ++ " of " ++ self ++ ">"
  | .member m => shownAs (.ok (m.inspect (s.classTypeName m.owner)))
  | .boundMember m self => shownAs (.ok (m.inspectBound (s.typeName self)))
  | .containerOf _ shown | .token _ shown => shownAs (.ok shown)
  | .validator test => shownAs (.ok test.shown)
  | .builder => shownAs (.ok "<function>")
where
  /-- An object of which only the handle is known. -/
  shownAs (shown : Except Fault String) : Value :=
    .object (handle s read path r shown shown)
  /-- The name of a function together with that of its class. -/
  name (f : Ref) : String :=
    match s.content f with
    | .function function => s.functionName f function
    | _ => ""

/-- An object of a class below that of its content. What such an object holds is shown as it
always is, unless the class has a function of the library to show its objects. -/
def derivedValue (r : Ref) (id : ClassId) : Value :=
  let v := contentValue s read path r
  let shown := match s.function? id .inspect with
    | some f => if f.owner.isLabel then v.inspect else inspectAs s read path f.owner r id
    | none => v.inspect
  let displayed := if v.text?.isSome || v.decimal?.isSome then v.display else shown
  .derived (handle s read path r shown displayed) v

/-- An object as a value, given how to read what it refers to. -/
def assemble (r : Ref) : Value :=
  match s.below? r with
  | some id => derivedValue s read path r id
  | none => contentValue s read path r

end Reading

/-- The value of an object to the given depth. -/
def readWithin (s : Session) : Nat → Reader
  | 0, _, _ => .none
  | depth + 1, path, r =>
    if path.contains r then
      let shown := .ok (mark (s.content r))
      .object ⟨r, s.className r, s.holder r, shown, shown, shown⟩
    else assemble s (readWithin s depth) (r :: path) r

end Snapshot

namespace Session

/-- The greatest depth of a snapshot. -/
def depth (s : Session) : Nat :=
  2 * s.cells.size + 2

/-- The value that an object is at the moment. -/
def value (s : Session) (r : Ref) : Value :=
  Snapshot.readWithin s s.depth [] r

/-- The type that an object is. -/
def typeOf (s : Session) (r : Ref) : SemanticType :=
  Snapshot.typeOf s (Snapshot.readWithin s s.depth) [] r

/-- The inspection form of an object as a class shows its objects. -/
def inspectAs (s : Session) (owner : StandingClass) (r : Ref) : Except Fault String :=
  Snapshot.inspectAs s (Snapshot.readWithin s s.depth) [r] owner r (s.classOf r)

end Session

namespace SessionM

/-- The value that an object is at the moment. -/
def valueOf (r : Ref) : SessionM Value :=
  return (← get).value r

/-- The type that an object is. -/
def typeOf (r : Ref) : SessionM SemanticType :=
  return (← get).typeOf r

end SessionM

end FilterAlgebra
