import FilterAlgebra.Session.Object
import FilterAlgebra.StyleOptions

/-!
# Sessions

A session is what steps share: the objects made so far, the names bound so far, the
classes defined so far and the records of the current step. A step may fail; what
it did to the session before it failed stays. A failure may come with the object
that is to blame for it.
-/

set_option autoImplicit false

namespace FilterAlgebra

/-- What the steps of a session share. -/
structure Session where
  cells : Array Cell := #[]
  /-- The objects that there is only one of. -/
  shared : List (Shared × Ref) := []
  names : Table Ref := []
  hierarchy : Hierarchy Ref := Hierarchy.standing
  records : List Record := []

namespace Session

/-- What an object consists of. -/
def content (s : Session) (r : Ref) : Content :=
  match s.cells[r]? with
  | some cell => cell.content
  | none => .atom .none

/-- The text that an object is. -/
def text? (s : Session) (r : Ref) : Option Text :=
  match s.content r with
  | .atom (.text t) => some t
  | _ => none

/-- The text that an object is, or the empty text. -/
def textOf (s : Session) (r : Ref) : String :=
  ((s.text? r).map Text.content).getD ""

/-- What stands under the texts among the keys of a mapping. -/
def namedEntries (s : Session) (entries : List (Ref × Ref)) : Table Ref :=
  entries.filterMap fun (key, r) => (s.text? key).map fun t => (t.content, r)

/-- The attributes that an object has of its own. -/
def attributes (s : Session) (r : Ref) : Table Ref :=
  match s.cells[r]? with
  | some cell =>
    match cell.keptIn?.map s.content with
    | none => cell.attributes
    | some (.dict entries) => s.namedEntries entries
    | some _ => []
  | none => []

/-- The attribute of a name that an object has of its own. -/
def attribute? (s : Session) (r : Ref) (name : String) : Option Ref :=
  (s.attributes r).get? name

/-- The object known as the only one of its kind, if it was made already. -/
def shared? (s : Session) (key : Shared) : Option Ref :=
  (s.shared.find? (·.1 = key)).map (·.2)

section Classes

/-- Whether a class is a standing class or below it. -/
def isBelow (s : Session) (id : ClassId) (c : StandingClass) : Bool :=
  (s.hierarchy.lineage id).contains c.id

/-- The classes of classes that the classes above a class are objects of. -/
def classesOfClasses (s : Session) (id : ClassId) : List StandingClass :=
  (s.hierarchy.lineage id).filterMap fun c => (StandingClass.ofId? c).bind StandingClass.ownClass?

/-- The class that a class is itself an object of: the most special one among those of the
classes above it. -/
def classOfClass (s : Session) (id : ClassId) : StandingClass :=
  let found := s.classesOfClasses id
  ([StandingClass.enumerationClasses, .modelClasses, .abstractClasses].find? found.contains).getD
    .classOfClasses

/-- The class of an object of the given content. -/
def classOfContent (s : Session) : Content → ClassId
  | .atom v => v.classId
  | .list _ => StandingClass.builtIn .list
  | .tuple _ => StandingClass.builtIn .tuple
  | .dict _ => StandingClass.builtIn .dict
  | .collection frozen _ => (if frozen then StandingClass.frozenSet else .mutableSet).id
  | .listing _ | .classListing _ => StandingClass.listing.id
  | .type id => (s.classOfClass id).id
  | .object id => id
  | .function _ | .builder => StandingClass.function.id
  | .method .. => StandingClass.method.id
  | .member m => m.type.id
  | .boundMember m _ => m.boundType.id
  | .containerOf .. => StandingClass.containerAlias.id
  | .validator _ => StandingClass.validator.id
  | .token c _ => c.id

/-- The class of an object, if that is a class below the one that its content is of. -/
def below? (s : Session) (r : Ref) : Option ClassId :=
  s.cells[r]?.bind Cell.below?

/-- The class of an object. -/
def classOf (s : Session) (r : Ref) : ClassId :=
  (s.below? r).getD (s.classOfContent (s.content r))

/-- The name of the class of an object. -/
def className (s : Session) (r : Ref) : String :=
  s.hierarchy.name (s.classOf r)

/-- The name of a class as most messages give it: that of some with its module. -/
def classTypeName (s : Session) (id : ClassId) : String :=
  match Hierarchy.builtIn? id, StandingClass.ofId? id with
  | some t, _ => t.typeName
  | none, some c =>
    if c = .containerAlias || c = .validator then c.home ++ "." ++ c.name else s.hierarchy.name id
  | none, none => s.hierarchy.name id

/-- The name of the class of an object as most messages give it. -/
def typeName (s : Session) (r : Ref) : String :=
  s.classTypeName (s.classOf r)

/-- The holder that an object is. -/
def holder (s : Session) (r : Ref) : Holder :=
  match s.content r with
  | .type id => .type (s.classTypeName id)
  | _ => .object (s.typeName r)

/-- What the classes of a lineage keep under a name: the first class that keeps anything. -/
def slot? (s : Session) (id : ClassId) (name : String) : Option (ClassId × Slot Ref) :=
  (s.hierarchy.lineage id).findSome? fun c => ((s.hierarchy.own c).get? name).map fun slot => (c, slot)

/-- The object in a slot of a class. -/
def slotRef? (s : Session) (id : ClassId) : Slot Ref → Option Ref
  | .declared r => some r
  | .collected _ => s.shared? (.collectedOf id)

/-- The object that a class keeps of its own under a name. -/
def own? (s : Session) (id : ClassId) (name : String) : Option Ref :=
  ((s.hierarchy.own id).get? name).bind (s.slotRef? id)

/-- The object that a class or one above it keeps under a name. -/
def kept? (s : Session) (id : ClassId) (name : String) : Option Ref :=
  (s.slot? id name).bind fun (c, slot) => s.slotRef? c slot

/-- The function that a class or one above it keeps under the name of an action. -/
def function? (s : Session) (id : ClassId) (action : Action) : Option Function :=
  match (s.kept? id action.name).map s.content with
  | some (.function f) => some f
  | _ => none

/-- What an object has under a name, of its own or by its class. -/
def part? (s : Session) (r : Ref) (name : String) : Option Ref :=
  (s.attribute? r name).or (s.kept? (s.classOf r) name)

/-- The own attributes of a class. -/
def listed (s : Session) (id : ClassId) : Table Ref :=
  (s.hierarchy.own id).filterMap fun (name, slot) => (s.slotRef? id slot).map fun r => (name, r)

/-- The module of a class, if it has one that is a text. -/
def home? (s : Session) (id : ClassId) : Option String :=
  match s.own? id Attribute.home with
  | some r => (s.text? r).map Text.content
  | none => some (((StandingClass.ofId? id).map StandingClass.home).getD StandingClass.builtInHome)

/-- The name of a class together with those of the classes around it. -/
def qualifiedName (s : Session) (id : ClassId) : String :=
  match (s.shared? (.type id)).bind (s.attribute? · Attribute.qualifiedName) with
  | some r => s.textOf r
  | none => s.hierarchy.name id

/-- The name of a class with its module, if it has one worth telling. -/
def fullName (s : Session) (id : ClassId) : String :=
  match s.home? id with
  | some home =>
    if home = StandingClass.builtInHome then s.hierarchy.name id else home ++ "." ++ s.qualifiedName id
  | none => s.hierarchy.name id

/-- The inspection form of a class that is not built in. -/
def inspectClass (s : Session) (id : ClassId) : String :=
  if s.classOfClass id = .enumerationClasses then
    "<enum " ++ Inspection.ofString (s.hierarchy.name id) ++ ">"
  else "<class '" ++ s.fullName id ++ "'>"

/-- A class of the hierarchy as a type. -/
def classType (s : Session) (id : ClassId) : SemanticType :=
  match Hierarchy.builtIn? id with
  | some t => t
  | none => .declared id (s.hierarchy.name id) (s.inspectClass id)

/-- The name of a function together with that of its class. -/
def functionName (s : Session) (r : Ref) (f : Function) : String :=
  match s.attribute? r Attribute.qualifiedName with
  | some name => s.textOf name
  | none => f.name

end Classes

/-- The class of an object that classes defined later can have a say in: one that consists of
attributes, or one of a class below that of its content. -/
def madeOf? (s : Session) (r : Ref) : Option ClassId :=
  match s.content r with
  | .object id => some id
  | _ => s.below? r

/-- Whether an object is an expression node. -/
def isNode (s : Session) (r : Ref) : Bool :=
  (s.madeOf? r).any (s.isBelow · .expression)

/-- Whether an object is the absent value. -/
def isNone (s : Session) (r : Ref) : Bool :=
  match s.content r with
  | .atom .none => true
  | _ => false

/-- The name of the property that an object is. -/
def property? (s : Session) (r : Ref) : Option Text :=
  match s.madeOf? r with
  | some id => if s.isBelow id .property then (s.attribute? r Attribute.name).bind s.text? else none
  | none => none

/-- The fault that an object is asked for an item by a key of a type that its items have not. -/
def indexFault (s : Session) (r : Ref) (keyType : String) : Fault :=
  match s.content r with
  | .list _ => .notAnIndex keyType
  | .tuple _ => .badArguments .type ("tuple indices must be integers or slices, not " ++ keyType)
  | .atom (.text _) => .badArguments .type ("string indices must be integers, not '" ++ keyType ++ "'")
  | .atom (.bytes _) => .badArguments .type ("byte indices must be integers or slices, not " ++ keyType)
  | _ => .notSubscriptable (s.holder r)

end Session

/-- A failure, and the object to blame for it. -/
structure Setback where
  failure : Failure
  culprit? : Option Ref := none

/-- A computation within a session. -/
abbrev SessionM := ExceptT Setback (StateM Session)

namespace SessionM

variable {α : Type}

/-- A failure with no object to blame. -/
def fail (failure : Failure) : SessionM α :=
  throw ⟨failure, none⟩

/-- A failure by a fault. -/
def fault (f : Fault) : SessionM α :=
  fail (.fault f)

/-- Embeds a run: its records are added to those of the session. -/
def ofTraced (run : Traced α) : SessionM α := do
  modify fun session => { session with records := session.records ++ run.records }
  match run.result with
  | .ok a => return a
  | .error failure => fail failure

instance : MonadLift Traced SessionM := ⟨ofTraced⟩

/-- Embeds an outcome that may be a fault. -/
def ofFault (outcome : Except Fault α) : SessionM α :=
  match outcome with
  | .ok a => return a
  | .error f => fault f

instance : MonadLift (Except Fault) SessionM := ⟨ofFault⟩

/-- What there is, or a fault where there is nothing. -/
def require (f : Fault) (found : Option α) : SessionM α :=
  ofFault (f.ofOption found)

/-- The fault that an object does not have what was asked for. -/
def failMissing (r : Ref) (name : String) : SessionM α := do
  fault (.missingAttribute ((← get).holder r) name)

/-- The text that an object is, or the empty text. -/
def textOf (r : Ref) : SessionM String :=
  return (← get).textOf r

section Objects

/-- A new object. -/
def newObject (content : Content) (attributes : Table Ref) : SessionM Ref := do
  let r := (← get).cells.size
  modify fun session => { session with cells := session.cells.push { content, attributes } }
  return r

/-- A new object of a class below the one that its content is of. -/
def newBelow (id : ClassId) (content : Content) : SessionM Ref := do
  let r := (← get).cells.size
  modify fun session => { session with cells := session.cells.push { content, below? := some id } }
  return r

/-- Makes an object known as the only one of its kind. -/
def share (key : Shared) (r : Ref) : SessionM Unit :=
  modify fun session => { session with shared := (key, r) :: session.shared }

/-- The only object of its kind, which is made when it is first asked for. -/
def sharedObject (key : Shared) (content : Content) : SessionM Ref := do
  match (← get).shared? key with
  | some r => return r
  | none =>
    let r ← newObject content []
    share key r
    return r

/-- An object for a value that refers to no others, a new one unless there is only one. -/
def newAtom (v : Value) : SessionM Ref :=
  match Shared.ofValue? v with
  | some key => sharedObject key (.atom v)
  | none => newObject (.atom v) []

/-- An object for a plain text. -/
def newText (s : String) : SessionM Ref :=
  newAtom (.str s)

/-- The object for a word that is written by a rule. -/
def wordObject (s : String) : SessionM Ref :=
  if Shared.isShort s then newText s else sharedObject (.word s) (.atom (.str s))

/-- The object for the absent value. -/
def absent : SessionM Ref :=
  newAtom .none

/-- An object for a tuple; there is only one empty tuple. -/
def newTuple (items : List Ref) : SessionM Ref :=
  if items.isEmpty then sharedObject .emptyTuple (.tuple [])
  else newObject (.tuple items) []

/-- An object for a collection that does not change; there is only one empty one. -/
def newCollection (items : List Ref) : SessionM Ref :=
  if items.isEmpty then sharedObject .emptyCollection (.collection true [])
  else newObject (.collection true items) []

/-- An object for a value that was tested. -/
def newPlain : Value → SessionM Ref
  | .tuple items => do newTuple (← items.mapM newAtom)
  | v => newAtom v

/-- An object for a mapping of names. -/
def newMapping (table : Table Ref) : SessionM Ref := do
  newObject (.dict (← table.mapM fun (name, r) => do return (← newText name, r))) []

/-- The object for a class. -/
def classObject (id : ClassId) : SessionM Ref :=
  sharedObject (.type id) (.type id)

/-- The object for a type. -/
def typeObject : SemanticType → SessionM Ref
  | .absent => absent
  | .other h => return h.serial
  | t => match Hierarchy.classId? t with
    | some id => classObject id
    | none => absent

/-- An object for a style. -/
def newStyleObject (style : QuoteStyle) : SessionM Ref := do
  newObject (.object StandingClass.style.id)
    [(QuoteStyle.markOption, ← newText style.mark.char.toString),
     (QuoteStyle.doubledOption, ← newAtom (.bool style.doubled))]

/-- The style that is used where no other is given. -/
def defaultStyle : SessionM Ref := do
  match (← get).shared? .defaultStyle with
  | some r => return r
  | none =>
    let r ← newStyleObject {}
    share .defaultStyle r
    return r

end Objects

section Changes

/-- Changes what is known of an object. -/
def modifyCell (r : Ref) (change : Cell → Cell) : SessionM Unit :=
  modify fun session => { session with cells := session.cells.modify r change }

/-- Replaces what an object consists of. -/
def setContent (r : Ref) (content : Content) : SessionM Unit :=
  modifyCell r fun cell => { cell with content }

/-- The mapping that holds the attributes of an object, if it was asked for. -/
def ownMapping? (r : Ref) : SessionM (Option (Ref × List (Ref × Ref))) := do
  let s ← get
  match s.cells[r]?.bind Cell.keptIn? with
  | some mapping =>
    match s.content mapping with
    | .dict entries => return some (mapping, entries)
    | _ => return none
  | none => return none

/-- Gives an object an attribute of its own. -/
def putAttribute (r : Ref) (name : String) (part : Ref) : SessionM Unit := do
  match ← ownMapping? r with
  | none => modifyCell r fun cell => { cell with attributes := cell.attributes.put name part }
  | some (mapping, entries) =>
    let s ← get
    let isNamed := fun (entry : Ref × Ref) => ((s.text? entry.1).map Text.content) = some name
    if entries.any isNamed then
      setContent mapping (.dict (entries.map fun entry => if isNamed entry then (entry.1, part) else entry))
    else setContent mapping (.dict (entries ++ [(← newText name, part)]))

/-- Takes an own attribute from an object. -/
def removeAttribute (r : Ref) (name : String) : SessionM Unit := do
  match ← ownMapping? r with
  | none => modifyCell r fun cell => { cell with attributes := cell.attributes.remove name }
  | some (mapping, entries) =>
    let s ← get
    setContent mapping (.dict (entries.filter fun (key, _) =>
      ((s.text? key).map Text.content) ≠ some name))

/-- Lets a mapping hold the attributes of an object, or none. -/
def setNamespace (r : Ref) (mapping? : Option Ref) : SessionM Unit :=
  modifyCell r fun cell => { cell with attributes := [], keptIn? := mapping? }

/-- The mapping that holds the attributes of an object. -/
def namespaceOf (r : Ref) : SessionM Ref := do
  match ← ownMapping? r with
  | some (mapping, _) => return mapping
  | none =>
    let mapping ← newMapping ((← get).attributes r)
    setNamespace r (some mapping)
    return mapping

/-- Changes the hierarchy. -/
def setHierarchy (hierarchy : Hierarchy Ref) : SessionM Unit :=
  modify fun session => { session with hierarchy }

/-- Sets an own attribute of a class. -/
def setOwn (id : ClassId) (name : String) (r : Ref) : SessionM Unit := do
  setHierarchy ((← get).hierarchy.setAttribute id name r)

end Changes

/-- The object bound to a name: by the innermost builder around, or else by the session. -/
def reference (locals : Table Ref) (name : String) : SessionM Ref := do
  match (Table.get? locals name).or ((← get).names.get? name) with
  | some r => return r
  | none => fault (.unbound name)

/-- Binds a name for all later steps. -/
def bindName (name : String) (r : Ref) : SessionM Unit :=
  modify fun session => { session with names := session.names.put name r }

end SessionM

end FilterAlgebra
