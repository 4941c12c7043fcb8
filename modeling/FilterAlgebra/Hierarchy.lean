import FilterAlgebra.Trace
import FilterAlgebra.Hierarchy.Lineage
import FilterAlgebra.Table

/-!
# Property sets and their classes

Properties are declared as attributes of classes. A property set is a class
below the root of all sets; when it is defined, the properties of all its
ancestors and its own are collected. They are visited from the least to the most
derived class, so a later declaration replaces an earlier one in its place. A
definition is refused if two of the collected properties have one name.

Attributes may be of any type. The function `property?` tells which of them are
properties, and what their names are.
-/

set_option autoImplicit false

namespace FilterAlgebra

/-- What an attribute of a class holds. -/
inductive Slot (α : Type) where
  /-- A declared attribute. -/
  | declared (content : α)
  /-- The properties that were collected for the class. -/
  | collected (properties : Table α)

/-- A class: its bases, its order of lookup, itself first, and its own attributes. -/
structure ClassRecord (α : Type) where
  id : ClassId
  name : String
  bases : List ClassId
  lineage : List ClassId
  own : Table (Slot α)
  /-- The class that says what its instances hold, if they hold anything but attributes. -/
  holds : Option ClassId

/-- All classes in the order of their definition. -/
structure Hierarchy (α : Type) where
  classes : List (ClassRecord α)

namespace Hierarchy

variable {α : Type}

/-- The class above all others. -/
def objectId : ClassId := ⟨0⟩

/-- The root of all property sets. -/
def rootId : ClassId := ⟨1⟩

/-- The classes that are always there, below the class above all others. -/
def builtIns : List (ClassId × SemanticType) :=
  [(⟨2⟩, .int), (⟨3⟩, .str), (⟨4⟩, .float), (⟨5⟩, .bool), (⟨6⟩, .bytes), (⟨7⟩, .tuple), (⟨8⟩, .list),
   (⟨9⟩, .dict), (⟨10⟩, .decimal), (⟨11⟩, .none)]

/-- The class of a type, if the type is one of a class. -/
def classId? : SemanticType → Option ClassId
  | .object => some objectId
  | .declared id _ _ => some id
  | type => (builtIns.find? (·.2 = type)).map (·.1)

/-- The built-in class of a number. -/
def builtIn? (id : ClassId) : Option SemanticType :=
  if id = objectId then some .object else (builtIns.find? (·.1 = id)).map (·.2)

/-- The classes that take no classes below them. -/
def isFinal (id : ClassId) : Bool :=
  builtIn? id = some .bool || builtIn? id = some .none

/-- The attribute under which the collected properties are kept. -/
def collectedName : String := "_properties"

/-- The classes above a built-in class. Truth values are integers. -/
def above : SemanticType → List ClassId
  | .bool => [⟨2⟩, objectId]
  | _ => [objectId]

/-- The record of a built-in class. -/
def builtInRecord (id : ClassId) (type : SemanticType) : ClassRecord α :=
  ⟨id, type.fixedName, (above type).take 1, id :: above type, [], some id⟩

/-- The hierarchy before any definition. -/
def initial : Hierarchy α :=
  ⟨⟨objectId, SemanticType.object.fixedName, [], [objectId], [], none⟩ ::
    ⟨rootId, "PropertySet", [objectId], [rootId, objectId], [(collectedName, .collected [])], none⟩ ::
    builtIns.map fun (id, type) => builtInRecord id type⟩

/-- The record of a class. -/
def class? (h : Hierarchy α) (id : ClassId) : Option (ClassRecord α) :=
  h.classes.find? (·.id = id)

/-- The name of a class. -/
def name (h : Hierarchy α) (id : ClassId) : String :=
  ((h.class? id).map (·.name)).getD ""

/-- The bases of a class. -/
def bases (h : Hierarchy α) (id : ClassId) : List ClassId :=
  ((h.class? id).map (·.bases)).getD []

/-- The order of lookup of a class. -/
def lineage (h : Hierarchy α) (id : ClassId) : List ClassId :=
  ((h.class? id).map (·.lineage)).getD []

/-- The own attributes of a class. -/
def own (h : Hierarchy α) (id : ClassId) : Table (Slot α) :=
  ((h.class? id).map (·.own)).getD []

/-- The class that says what the instances of a class hold. -/
def holds (h : Hierarchy α) (id : ClassId) : Option ClassId :=
  (h.class? id).bind (·.holds)

/-- What an attribute of a class holds: that of the first class in the order of
lookup that has it. -/
def lookup (h : Hierarchy α) (id : ClassId) (name : String) : Option (Slot α) :=
  (h.lineage id).findSome? fun c => (h.own c).get? name

/-- Whether a class is a property set. -/
def isPropertySet (h : Hierarchy α) (id : ClassId) : Bool :=
  (h.lineage id).contains rootId

/-- The collected properties of a class. -/
def properties (h : Hierarchy α) (id : ClassId) : Table α :=
  match h.lookup id collectedName with
  | some (.collected properties) => properties
  | _ => []

section Collection

variable (property? : α → Option Text)

/-- The property that a slot holds, if it holds one. -/
def declaredProperty? : Slot α → Option α
  | .declared content => if (property? content).isSome then some content else none
  | _ => none

/-- Adds the properties among the attributes of one class. -/
def collectOwn (found : Table α) (own : Table (Slot α)) : Table α :=
  own.foldl (fun found (name, slot) =>
    match declaredProperty? property? slot with
    | some content => found.put name content
    | none => found) found

/-- The properties of some classes, given from the most derived to the least derived one. -/
def collect (owns : List (Table (Slot α))) : Table α :=
  owns.reverse.foldl (collectOwn property?) []

/-- The name of a property. -/
def propertyName (content : α) : String :=
  ((property? content).map Text.content).getD ""

/-- Searches properties for the first that has the name of an earlier one; `seen` are the earlier
attributes, each with the name of its property. -/
def clashAfter (seen : List (String × String)) : Table α → Option (String × String × α)
  | [] => none
  | (name, content) :: rest =>
    match seen.find? (·.2 = propertyName property? content) with
    | some (first, _) => some (first, name, content)
    | none => clashAfter (seen ++ [(name, propertyName property? content)]) rest

/-- The first attribute whose property has the name of an earlier one, after that earlier one. -/
def clash? (properties : Table α) : Option (String × String × α) :=
  clashAfter property? [] properties

/-- The first base that is listed again later. -/
def repeatedBase? : List ClassId → Option ClassId
  | [] => none
  | base :: rest => if base ∈ rest then some base else repeatedBase? rest

/-- The base that a class is built on: the first one whose instances hold
anything, or else the first. -/
def mainBase? (h : Hierarchy α) (bases : List ClassId) : Option ClassId :=
  (bases.find? fun base => (h.holds base).isSome).or bases.head?

/-- Whether what the instances of a class hold is of no fixed size. -/
def isSized (id : ClassId) : Bool :=
  [some SemanticType.int, some .tuple, some .bytes].contains (builtIn? id)

/-- The class that says how the instances of a class are laid out: the one that says what they hold,
but where that is of no fixed size the first class below it, which gives them attributes. -/
def layout (h : Hierarchy α) (id : ClassId) : ClassId :=
  match h.holds id with
  | none => objectId
  | some held =>
    if isSized held then
      ((h.lineage id).find? fun c => c ≠ held && h.mainBase? (h.bases c) = some held).getD held
    else held

/-- Bases allow a class of their own if none of them is final and of the ways in which
they lay out instances one goes beyond all others. -/
def checkBases (h : Hierarchy α) (bases : List ClassId) : Except Fault Unit :=
  bases.foldlM (fun laidOut base =>
    if isFinal base then .error (.unacceptableBase (h.name base))
    else if (h.lineage laidOut).contains (h.layout base) then .ok laidOut
    else if (h.lineage (h.layout base)).contains laidOut then .ok (h.layout base)
    else .error .clashingContents) objectId >>= fun _ => .ok ()

/-- A class has a name without null characters. -/
def checkName (name : String) : Except Fault Unit :=
  if name.toList.contains (Char.ofNat 0) then .error .nullInName else .ok ()

/-- The order of lookup above a class with the given bases. -/
def ancestry (h : Hierarchy α) (bases : List ClassId) : Except Fault (List ClassId) :=
  match repeatedBase? bases with
  | some base => .error (.repeatedBase (h.name base))
  | none =>
    match Lineage.merge (bases.map h.lineage ++ [bases]) with
    | .ok order => .ok order
    | .error blocked => .error (.inconsistentBases (blocked.map h.name))

/-- The properties of a new class with the given ancestors and own attributes, unless they clash. -/
def collectFor (h : Hierarchy α) (name : String) (ancestors : List ClassId)
    (own : Table (Slot α)) : Except Failure (Table α) :=
  let properties := collect property? (own :: ancestors.map h.own)
  match clash? property? properties with
  | none => .ok properties
  | some (first, second, content) =>
    .error (.declaredTwice name first second (((property? content).map Text.display).getD ""))

/-- Adds a class after all others. -/
def add (h : Hierarchy α) (record : ClassRecord α) : Hierarchy α :=
  ⟨h.classes ++ [record]⟩

/-- Whether a class of the given bases may be defined under a name. -/
def checkDefinition (h : Hierarchy α) (name : String) (bases : List ClassId) : Except Fault Unit := do
  h.checkBases bases
  checkName name

/-- The record of a new class with nothing but its declared attributes. -/
def declare (h : Hierarchy α) (name : String) (bases : List ClassId) (attributes : Table α) :
    Except Fault (ClassRecord α) := do
  h.checkDefinition name bases
  let ancestors ← h.ancestry bases
  let id : ClassId := ⟨h.classes.length⟩
  let own := (Table.ofEntries attributes).map fun (name, content) => (name, Slot.declared content)
  return ⟨id, name, bases, id :: ancestors, own, bases.findSome? h.holds⟩

/-- Defines a class. A property set gets its collected properties as an attribute, whatever was
declared under that name. A refused definition leaves no trace. -/
def define (h : Hierarchy α) (name : String) (bases : List ClassId) (attributes : Table α) :
    Traced (ClassId × Hierarchy α) := do
  let record ← Traced.ofFault (h.declare name bases attributes)
  let ancestors := record.lineage.tail
  if ancestors.contains rootId then
    let properties ← collectFor property? h name ancestors record.own
    Traced.emit (.registered properties.length name)
    return (record.id, h.add { record with own := record.own.put collectedName (.collected properties) })
  else return (record.id, h.add record)

end Collection

/-- Changes the record of a class. -/
def modify (h : Hierarchy α) (id : ClassId) (change : ClassRecord α → ClassRecord α) : Hierarchy α :=
  ⟨h.classes.map fun record => if record.id = id then change record else record⟩

/-- Gives a class another name. -/
def rename (h : Hierarchy α) (id : ClassId) (name : String) : Hierarchy α :=
  h.modify id fun record => { record with name }

/-- Sets an own attribute of a class. -/
def setAttribute (h : Hierarchy α) (id : ClassId) (name : String) (content : α) : Hierarchy α :=
  h.modify id fun record => { record with own := record.own.put name (.declared content) }

/-- Deletes an own attribute of a class, which must be there. -/
def deleteAttribute (h : Hierarchy α) (id : ClassId) (name : String) : Except Fault (Hierarchy α) :=
  if ((h.own id).get? name).isSome then
    .ok (h.modify id fun record => { record with own := record.own.remove name })
  else .error (.missingAttribute (.type (h.name id)) name)

end Hierarchy

end FilterAlgebra
