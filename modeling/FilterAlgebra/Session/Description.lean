import FilterAlgebra.Session.Script

/-!
# Descriptions

A description is what a session tells about an object: for nodes their class, type
and text, for capabilities, adapters and scopes their inspection form, for property
sets what they list, for simple values the value itself. All other objects are
described by their class and their inspection form. Where a node has no text, or one
of those other objects no inspection form, the description says why; any other part
that cannot be told leaves the object without a description.
-/

set_option autoImplicit false

namespace FilterAlgebra

/-- What is told about an object. -/
inductive Description where
  | node (className : String) (type : Option String) (text : Except Fault String)
  | capability (shown : String) (type : Option String)
  | adapter (shown : String) (type : Option String)
  | scope (shown : String)
  | style (mark : String) (doubled : Bool)
  | propertySet (name : String) (attributes : List String) (properties : List Description)
  | type (name : String)
  | properties (attributes : List String) (properties : List Description)
  | none
  | bool (b : Bool)
  | text (s : String)
  | bytes (content : List UInt8)
  | list (items : List Description)
  | tuple (items : List Description)
  | other (className : String) (shown : Except Fault String)

namespace SessionM

/-- The name of a type as descriptions give it; the absent value stands for no type. -/
def describedType (type : SemanticType) : SessionM (Option String) := do
  if type = .absent then return none else return some (← (type.name : SessionM String))

/-- The type that a node stands for, if it has one. -/
def typeOfNode (node : Ref) : SessionM SemanticType :=
  tryCatch (semanticTypeOf node) fun setback =>
    match setback.failure with
    | .fault (.missingAttribute ..) => return .absent
    | _ => throw setback

/-- The text of a node, or why it has none. -/
def describedText (node : Ref) : SessionM (Except Fault String) :=
  tryCatch (do
      let text ← textOf (← request call node .render [])
      return .ok text) fun setback =>
    match setback.failure with
    | .fault f => return .error f
    | _ => throw setback

/-- The inspection form of an object. -/
def shownOf (r : Ref) : SessionM String := do
  (← valueOf r).inspect

/-- The collected properties that a property set shows. -/
def shownProperties (r : Ref) : SessionM (List (Ref × Ref)) := do
  let collected ← attributeOf r Hierarchy.collectedName
  match ← entriesOf? collected with
  | some entries => return entries
  | none => failMissing collected "items"

section Parts

variable (describe : Ref → SessionM Description)

/-- The names in some entries, and the descriptions of what they are mapped to. -/
def describeEntries (entries : List (Ref × Ref)) : SessionM (List String × List Description) := do
  let s ← get
  return (entries.map (s.textOf ·.1), ← entries.mapM (describe ·.2))

/-- The description of a style: its two options. -/
def describeStyle (r : Ref) : SessionM Description := do
  let mark ← attributeOf r QuoteStyle.markOption
  let doubled ← attributeOf r QuoteStyle.doubledOption
  let s ← get
  match s.text? mark, s.content doubled with
  | some mark, .atom (.bool doubled) => return .style mark.content doubled
  | _, _ => return .other (s.className r) (s.value r).inspect

/-- The description of an object of a class that consists of attributes. -/
def describeObject (r : Ref) (id : ClassId) : SessionM Description := do
  let s ← get
  let below := s.isBelow id
  if below .expression then
    return .node (s.hierarchy.name id) (← describedType (← typeOfNode r)) (← describedText r)
  else if below .capability then
    return .capability (← shownOf r) (← describedType (← semanticTypeOf r))
  else if below .adapter then
    return .adapter (← shownOf r) (← describedType (← typeOf (← attributeOf r Attribute.target)))
  else if below .bundle || below .adapterSet then return .scope (← shownOf r)
  else if below .style then describeStyle r
  else return .other (s.className r) (s.value r).inspect

/-- The description of an object, given how those that it refers to are described. -/
def describeBy (r : Ref) : SessionM Description := do
  let s ← get
  match s.madeOf? r, s.content r with
  | some id, _ => describeObject r id
  | none, .atom .none => return .none
  | none, .atom (.bool b) => return .bool b
  | none, .atom (.text (.plain t)) => return .text t
  | none, .atom (.bytes content) => return .bytes content
  | none, .list items => return .list (← items.mapM describe)
  | none, .tuple items => return .tuple (← items.mapM describe)
  | none, .listing _ | none, .classListing _ =>
    let (names, descriptions) ← describeEntries describe ((← entriesOf? r).getD [])
    return .properties names descriptions
  | none, .type id =>
    if s.hierarchy.isPropertySet id then
      let (names, descriptions) ← describeEntries describe (← shownProperties r)
      return .propertySet (s.hierarchy.name id) names descriptions
    else return .type (s.hierarchy.name id)
  | none, _ => return .other (s.className r) (s.value r).inspect

end Parts

/-- The description of an object, with objects described within it at most to the given depth. -/
def describeWithin : Nat → Ref → SessionM Description
  | 0, _ => return .none
  | depth + 1, r => describeBy (describeWithin depth) r

/-- The description of an object. The session stays as it was, without the objects that
describing makes. -/
def describe (r : Ref) : SessionM Description :=
  ExceptT.mk fun session => (((describeWithin session.depth r).run.run session).1, session)

end SessionM

end FilterAlgebra
