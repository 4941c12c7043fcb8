import FilterAlgebra.Session.Documentation
import FilterAlgebra.Session.Snapshot
import FilterAlgebra.Value.Conversion

/-!
# Attributes of objects

An object shows its own attributes, and below them what its class keeps for all its
objects: values as they are, functions and members bound to the object, fields as
what they show of it. A class shows what it is, then what the classes of its order
of lookup keep, and in the end what its own class keeps for it.
-/

set_option autoImplicit false

namespace FilterAlgebra

namespace Value

/-- Whether objects of a value can have attributes of their own. -/
def isOpen : Value → Bool
  | customInt _ | color _ | customFloat _ | text (.custom _) | text (.tag _) => true
  | _ => false

/-- The parts of a number by their names. -/
def numberParts (v : Value) : Table Value :=
  match v with
  | float x | customFloat x => [("real", float x), ("imag", float ⟨0⟩)]
  | decimal d => [("real", decimal d), ("imag", decimal (.finite false 0 0))]
  | v =>
    match v.index? with
    | some n => [("real", int n), ("imag", int 0), ("numerator", int n), ("denominator", int 1)]
    | Option.none => []

/-- Whether a number is its own part of a name. -/
def isOwnPart (v : Value) (name : String) : Bool :=
  match v with
  | int _ => name = "real" || name = "numerator"
  | float _ | decimal _ => name = "real"
  | _ => false

/-- Whether a value has a name. -/
def isNamed : Value → Bool
  | color _ | text (.tag _) => true
  | _ => false

end Value

namespace Content

/-- Whether an object of the given content can have attributes of its own. -/
def isOpen : Content → Bool
  | object id => id ≠ Hierarchy.objectId
  | function _ => true
  | atom v => v.isOpen
  | _ => false

end Content

/-- Whether an object can have attributes of its own. -/
def Session.isOpen (s : Session) (r : Ref) : Bool :=
  (s.below? r).isSome || (s.content r).isOpen

/-- Whether an object can be called. -/
def Session.isCallable (s : Session) (r : Ref) : Bool :=
  match s.content r, s.madeOf? r with
  | .function _, _ | .method .., _ | .type _, _ | .containerOf .., _
  | .boundMember .., _ | .builder, _ => true
  | .member m, _ => !m.isShown
  | _, some id => (s.slot? id "__call__").isSome
  | _, none => false

namespace SessionM

/-- The object for the class of an object. -/
def classOf (r : Ref) : SessionM Ref := do
  classObject ((← get).classOf r)

/-- A mapping of names that cannot be changed. -/
def newListing (table : Table Ref) : SessionM Content := do
  return .listing (← table.mapM fun (name, r) => do return (← newText name, r))

/-- The listing of the collected properties of a class. -/
def collectedObject (id : ClassId) (properties : Table Ref) : SessionM Ref := do
  match (← get).shared? (.collectedOf id) with
  | some r => return r
  | none => sharedObject (.collectedOf id) (← newListing properties)

/-- The object in a slot of a class. -/
def slotObject (id : ClassId) : Slot Ref → SessionM Ref
  | .declared r => return r
  | .collected properties => collectedObject id properties

section Fields

/-- Where a named value keeps what it shows under one of the two names of all named values. -/
def namingField? : String → Option String
  | "name" => some "_name_"
  | "value" => some "_value_"
  | _ => none

/-- The name of a class that a member belongs to, without its module. -/
def ownerName (m : Member) : SessionM String :=
  return (← get).hierarchy.name m.owner

/-- What a field of a function shows. -/
def functionField (f : Function) (name : String) : SessionM Ref := do
  match name with
  | "__name__" => newText f.action.name
  | "__qualname__" => newText f.name
  | "__module__" => newText f.owner.home
  | "__annotations__" => newMapping []
  | "__doc__" =>
    match Documentation.ofFunction f with
    | some text => newText text
    | none => absent
  | _ => absent

/-- What a field of a member shows. -/
def memberField (m : Member) (name : String) : SessionM Ref := do
  match name with
  | "__name__" => newText m.name
  | "__qualname__" => newText ((← ownerName m) ++ "." ++ m.name)
  | "__objclass__" => classObject m.owner
  | _ => absent

/-- The named values that a class keeps, by their names. -/
def namedValues (s : Session) (id : ClassId) : Table Ref :=
  (s.listed id).filter fun (_, r) =>
    match s.content r with
    | .atom v => v.isNamed
    | _ => false

/-- What a field shows of an object. -/
def fieldOf (r : Ref) (name : String) : SessionM Ref := do
  let s ← get
  match s.content r, name with
  | .atom v, _ =>
    if v.isOwnPart name && ((s.below? r).isNone || v.decimal?.isSome) then return r
    else if v.index?.isSome && name = Attribute.weakReference then
      fault (.badArguments .access "This object has no __weakref__")
    else
      match v.numberParts.get? name, namingField? name with
      | some part, _ => newAtom part
      | none, some field => require (.badArguments .access field) (s.attribute? r field)
      | none, none => absent
  | .function f, _ => functionField f name
  | .method f _, "__func__" => return f
  | .method _ self, "__self__" | .boundMember _ self, "__self__" => return self
  | .boundMember _ _, "__module__" => absent
  | .member m, _ | .boundMember m _, _ => memberField m name
  | .containerOf type _, "__origin__" => return type
  | .type id, "__members__" => do newObject (← newListing (namedValues s id)) []
  | _, _ => absent

end Fields

/-- What a class keeps, as it is shown by an object of the class. -/
def presented (r kept : Ref) : SessionM Ref := do
  match (← get).content kept with
  | .function f => do newObject (.method kept (← if f.action.isOfClass then classOf r else pure r)) []
  | .member m => if m.isShown then fieldOf r m.name else newObject (.boundMember m r) []
  | _ => return kept

/-- What a class keeps, as it is shown by the class itself. -/
def presentedByClass (type kept : Ref) : SessionM Ref := do
  match (← get).content kept with
  | .function f => if f.action.isOfClass then newObject (.method kept type) [] else return kept
  | .member m =>
    if m.sort = .ofClass then newObject (.boundMember m type) []
    else if m.owner = StandingClass.enumeration.id && (namingField? m.name).isSome then
      fault (.badArguments .access m.name)
    else return kept
  | _ => return kept

/-- The object for the name of a class: the one it was renamed to, if it was, and a new one for a
class that is always there. -/
def nameObject (id : ClassId) : SessionM Ref := do
  let s ← get
  let name := s.hierarchy.name id
  match s.attribute? (← classObject id) Attribute.className with
  | some r => return r
  | none =>
    if Shared.isShort name || (Hierarchy.builtIn? id).isSome then newText name
    else sharedObject (.nameOf id name) (.atom (.str name))

/-- The object for the name of a class together with those of the classes around it. -/
def qualifiedNameObject (id : ClassId) : SessionM Ref := do
  let s ← get
  match s.attribute? (← classObject id) Attribute.qualifiedName with
  | some r => return r
  | none => nameObject id

/-- The classes of a list as an object that is kept. -/
def keptTuple (key : Shared) (classes : List ClassId) : SessionM Ref := do
  if classes.isEmpty then newTuple [] else sharedObject key (.tuple (← classes.mapM classObject))

/-- Whether the attributes of a class never change. -/
def isFixed (id : ClassId) : Bool :=
  (Hierarchy.builtIn? id).isSome || ((StandingClass.ofId? id).map StandingClass.isFixed).getD false

/-- The annotations of a class: its own, which are made when they are first asked for. -/
def annotationsOf (r : Ref) (id : ClassId) : SessionM Ref := do
  let name := "__annotations__"
  match (← get).own? id name with
  | some kept => return kept
  | none =>
    if isFixed id then failMissing r name
    else
      let made ← newMapping []
      setOwn id name made
      return made

/-- What a class is, asked for under a name. -/
def classTrait? (r : Ref) (id : ClassId) (name : String) : SessionM (Option Ref) := do
  let s ← get
  let h := s.hierarchy
  match name with
  | "__name__" => some <$> nameObject id
  | "__qualname__" => some <$> qualifiedNameObject id
  | "__bases__" => some <$> keptTuple (.basesOf id (h.bases id)) (h.bases id)
  | "__mro__" => some <$> keptTuple (.lineageOf id (h.lineage id)) (h.lineage id)
  | "__base__" =>
    match h.mainBase? (h.bases id) with
    | some base => some <$> classObject base
    | none => some <$> absent
  | "__class__" => some <$> classOf r
  | "__dict__" => some <$> newObject (.classListing id) []
  | "__doc__" => some <$> (s.own? id name).elim absent pure
  | "__module__" =>
    match s.own? id name with
    | some kept => return some kept
    | none => some <$> newText ((s.home? id).getD "")
  | "__annotations__" => some <$> annotationsOf r id
  | "__abstractmethods__" =>
    match s.own? id name with
    | some kept => return some kept
    | none => fault (.badArguments .access name)
  | _ => return none

/-- The fault that an object does not show anything under a name. Classes of named values
and of models only give the name. -/
def failUnshown {α : Type} (r : Ref) (name : String) : SessionM α := do
  let s ← get
  match s.content r with
  | .type id =>
    if [StandingClass.enumerationClasses, .modelClasses].contains (s.classOfClass id) then
      fault (.badArguments .access name)
    else failMissing r name
  | .object id =>
    if s.isBelow id .model then
      fault (.badArguments .access
        (Inspection.ofString (s.className r) ++ " object has no attribute " ++ Inspection.ofString name))
    else failMissing r name
  | _ => failMissing r name

/-- What a class shows under a name. -/
def classAttribute (r : Ref) (id : ClassId) (name : String) : SessionM Ref := do
  match ← classTrait? r id name with
  | some found => return found
  | none =>
    let s ← get
    match s.slot? id name, s.slot? (s.classOf r) name with
    | some (c, slot), _ => do presentedByClass r (← slotObject c slot)
    | none, some (c, slot) => do presented r (← slotObject c slot)
    | none, none => failUnshown r name

/-- What an object that is no class shows under a name. -/
def objectAttribute (r : Ref) (name : String) : SessionM Ref := do
  let s ← get
  if name = Attribute.ofClass then classOf r
  else if name = Attribute.all && s.isOpen r then namespaceOf r
  else
    match s.attribute? r name, s.slot? (s.classOf r) name with
    | some part, _ => return part
    | none, some (c, slot) => do presented r (← slotObject c slot)
    | none, none => failUnshown r name

/-- What a method shows of its own and not of its function. -/
def isOfMethod (name : String) : Bool :=
  ["__self__", "__func__", "__class__", "__reduce__", "__repr__", "__hash__", "__call__",
    "__getattribute__", "__setattr__", "__delattr__", "__lt__", "__le__", "__eq__", "__ne__", "__gt__",
    "__ge__"].contains name

/-- What a class of containers shows of its own and not of the class that it tells the items of. -/
def isOfContainerClass (name : String) : Bool :=
  ["__origin__", "__class__"].contains name

/-- What an object shows under a name. -/
def attributeOf (r : Ref) (name : String) : SessionM Ref := do
  let s ← get
  match s.content r with
  | .type id => classAttribute r id name
  | .method f _ => if isOfMethod name then objectAttribute r name else objectAttribute f name
  | .containerOf type _ =>
    match s.content type with
    | .type id => if isOfContainerClass name then objectAttribute r name else classAttribute type id name
    | _ => objectAttribute r name
  | _ => objectAttribute r name

end SessionM

end FilterAlgebra
