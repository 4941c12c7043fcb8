import FilterAlgebra.Session.Instantiation
import FilterAlgebra.Session.Registration

/-!
# Definitions of classes

A class is defined by its name, its bases and its attributes. To the attributes that
are declared a definition adds those that every class has: the module, what shows the
attributes of its instances, and a description. Bases must be classes that allow a
class below them, and of several faults the one of the bases comes first.
-/

set_option autoImplicit false

namespace FilterAlgebra

/-- The classes above a new class. -/
inductive Bases where
  /-- No bases are given: the class is a property set, or a plain class if it is said to be one. -/
  | byDefault (plain : Bool)
  /-- So many operands are bases. -/
  | given (count : Nat)
  deriving DecidableEq

/-- The class of the classes below some classes: the most special one among those of the classes,
if there is one. -/
def StandingClass.mostSpecial : List StandingClass → Option StandingClass
  | [] => some .classOfClasses
  | c :: rest =>
    match mostSpecial rest with
    | none => none
    | some d =>
      if c = d || c = .classOfClasses then some d
      else if d = .classOfClasses then some c
      else if c = .enumerationClasses || d = .enumerationClasses then none
      else some .modelClasses

namespace SessionM

/-- The class that an operand among the bases is. -/
def baseOf (r : Ref) : SessionM ClassId := do
  match (← get).content r with
  | .type id => return id
  | .containerOf .. =>
    fault (.badArguments .type "type() doesn't support MRO entry resolution; use types.new_class()")
  | _ => fault .baseNotClass

/-- The class of the classes below some classes. -/
def classOfClassesBelow (bases : List ClassId) : SessionM StandingClass := do
  let s ← get
  require .baseNotClass (StandingClass.mostSpecial (bases.map s.classOfClass))

/-- Makes sure that a class of the given class allows attributes: the classes of named values and of
models take none that are not declared as their own form asks. -/
def checkForm (ofClasses : StandingClass) (declared : Table Ref) : SessionM Unit :=
  match ofClasses with
  | .enumerationClasses => fault (.missingAttribute (.object SemanticType.dict.fixedName) "_member_names")
  | .modelClasses => if declared.isEmpty then return () else fault .wrongOperands
  | _ => return ()

/-- Makes sure that classes allow classes below them. -/
def checkAcceptable (bases : List ClassId) : SessionM Unit := do
  let s ← get
  for id in bases do
    match StandingClass.ofId? id with
    | some c =>
      if c.isFinal then fault (.unacceptableBase (s.classTypeName id))
      else if c = .generic then fault (.badArguments .type "Cannot inherit from plain Generic")
    | none => pure ()

/-- The name of a class together with those of the classes around it, if it is declared. -/
def declaredQualifiedName (attributes : Table Ref) : SessionM (Option Ref) := do
  match attributes.get? Attribute.qualifiedName with
  | none => return none
  | some r =>
    let s ← get
    if (s.text? r).isSome then return some r else fault (.qualifiedNameNotText (s.typeName r))

/-- Attributes with one more, unless one of its name is there. -/
def withDefault (attributes : Table Ref) (name : String) (r : Ref) : Table Ref :=
  if (attributes.get? name).isSome then attributes else attributes.put name r

/-- Whether a class that is built in lets what refers to its objects not keep them, or cannot. -/
def isClosed (id : ClassId) : Bool :=
  [some .int, some .tuple, some .bytes].contains (Hierarchy.builtIn? id) ||
    [some .classOfClasses, some .mutableSet, some .frozenSet].contains (StandingClass.ofId? id)

/-- The fields that objects of a class get that is built on a base: what the base has is not
added again. -/
def addedFields (s : Session) (base : ClassId) : List String :=
  let above := s.hierarchy.lineage base
  let lacks := fun name => above.all fun c => (s.own? c name).isNone
  (if lacks Attribute.all then [Attribute.all] else []) ++
    if lacks Attribute.weakReference && !above.any isClosed then [Attribute.weakReference] else []

/-- The own attributes of a new class: those declared, and those that every class has. -/
def ownAttributesOf (ofClasses : StandingClass) (bases : List ClassId) (declared : Table Ref) :
    SessionM (Table Ref) := do
  let s ← get
  let id : ClassId := ⟨s.hierarchy.classes.length⟩
  let base := (s.hierarchy.mainBase? bases).getD Hierarchy.objectId
  let home ← newText (
    if ofClasses = .classOfClasses then StandingClass.userHome else StandingClass.abstractBase.home)
  let added ← (addedFields s base).mapM fun name => do
    return (name, ← newObject (.member ⟨.field, id, name⟩) [])
  let attributes := withDefault (declared.remove Attribute.qualifiedName) Attribute.home home
  let attributes := added.foldl (fun attributes (name, r) => withDefault attributes name r) attributes
  let attributes := withDefault attributes Attribute.description (← absent)
  if (attributes.get? (Action.name .sameAs)).isSome then
    return withDefault attributes (Action.name .hash) (← absent)
  else return attributes

/-- Whether an object is a function that a class leaves to the classes below. -/
def isLeftOpen (s : Session) (r : Ref) : Bool :=
  match s.content r with
  | .function f => (f.owner.missing?.getD []).contains f.action.name
  | _ => false

/-- Lets a class say which functions it leaves to the classes below. -/
def noteMissing (id : ClassId) : SessionM Unit := do
  let s ← get
  let own := ((s.listed id).filter fun (_, r) => isLeftOpen s r).map (·.1)
  let inherited := ((s.hierarchy.bases id).flatMap (missingFunctions s)).filter fun name =>
    ((s.kept? id name).map (isLeftOpen s)).getD false
  setOwn id "__abstractmethods__" (← newCollection (← (own ++ inherited).eraseDups.mapM newText))

/-- Lets a class say that it leaves no types open, if a class above it says what it does. -/
def noteParameters (id : ClassId) : SessionM Unit := do
  if (← get).isBelow id .generic then setOwn id "__parameters__" (← newTuple [])

/-- What the classes above a new class keep to prepare it, unless it is what the library keeps. -/
def preparation? (s : Session) (bases : List ClassId) : Except Fault (Option Ref) := do
  let above ← s.hierarchy.ancestry bases
  let found := above.findSome? fun c => s.own? c (Action.name .register)
  return found.filter fun r =>
    match s.content r with
    | .function _ | .member _ => false
    | _ => true

/-- Adds a class to the hierarchy, and lets the classes above it prepare it. -/
def addClass (call : Caller) (name : String) (bases : List ClassId) (attributes : Table Ref) :
    SessionM ClassId := do
  let s ← get
  match ← (preparation? s bases : SessionM (Option Ref)) with
  | some prepare =>
    let record ← (s.hierarchy.declare name bases attributes : SessionM (ClassRecord Ref))
    setHierarchy (s.hierarchy.add record)
    let _ ← call prepare { positional := [] }
    return record.id
  | none =>
    let (id, hierarchy) ← (s.hierarchy.define s.property? name bases attributes : Traced _)
    setHierarchy hierarchy
    if hierarchy.isPropertySet id then
      let _ ← collectedObject id (hierarchy.properties id)
    noteParameters id
    if (← get).isBelow id .capability then registerForm id
    return id

/-- Defines a class with the given objects for its bases. -/
def defineBelow (call : Caller) (name : String) (bases : List Ref) (declared : Table Ref) : SessionM Ref := do
  let given ← bases.mapM baseOf
  let ids := if given.isEmpty then [Hierarchy.objectId] else given
  let ofClasses ← classOfClassesBelow ids
  checkForm ofClasses declared
  checkAcceptable ids
  let s ← get
  (s.hierarchy.checkDefinition name ids : SessionM Unit)
  let qualifiedName? ← declaredQualifiedName declared
  let attributes ← ownAttributesOf ofClasses ids declared
  let id ← addClass call name ids attributes
  if ofClasses ≠ .classOfClasses then noteMissing id
  let r ← classObject id
  match qualifiedName? with
  | some text => putAttribute r Attribute.qualifiedName text
  | none => pure ()
  return r

/-- Defines a class whose bases and then attributes are the operands. -/
def define (call : Caller) (name : String) (bases : Bases) (attributes : List String) (operands : List Ref) :
    SessionM Ref := do
  match bases with
  | .byDefault plain =>
    let base ← classObject (if plain then Hierarchy.objectId else Hierarchy.rootId)
    defineBelow call name [base] (Table.ofEntries (attributes.zip operands))
  | .given count =>
    defineBelow call name (operands.take count) (Table.ofEntries (attributes.zip (operands.drop count)))

end SessionM

end FilterAlgebra
