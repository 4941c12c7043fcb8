import FilterAlgebra.Hierarchy.Rebase
import FilterAlgebra.Session.Attributes

/-!
# Changing what objects show

Attributes can be set and deleted. Nodes and styles refuse every change, simple
values have no attributes of their own that could be changed, and the classes that
are built in never change. What a class shows of itself takes only values of certain
kinds, and an object can only change to a class whose objects are laid out like its
own.
-/

set_option autoImplicit false

namespace FilterAlgebra.SessionM

/-- The issue that a style refuses changes. -/
def frozenStyle (name : String) : Failure :=
  .invalid [⟨[.field name], .mutable⟩]

/-- The fault that an attribute cannot be changed or deleted. -/
def accessFault (complaint : String) : Fault :=
  .badArguments .access complaint

/-- The fault that something is of the wrong type. -/
def typeFault (complaint : String) : Fault :=
  .badArguments .type complaint

section Layout

/-- The class that says how the objects of a class are laid out: the first in its order of lookup
that adds something to what its objects are. -/
def layoutOf (s : Session) (id : ClassId) : ClassId :=
  ((s.hierarchy.lineage id).find? fun c =>
    (isFixed c && Hierarchy.builtIn? c ≠ some .bool) ||
      (s.own? c Attribute.weakReference).isSome || (s.own? c Attribute.all).isSome).getD Hierarchy.objectId

/-- Whether the objects of a class can refer to others. -/
def isLinked (id : ClassId) : Bool :=
  match Hierarchy.builtIn? id, StandingClass.ofId? id with
  | some t, _ => [SemanticType.list, .tuple, .dict].contains t
  | none, some c => c ≠ .abstractBase && c ≠ .generic
  | none, none => true

/-- What a class adds to the objects of the class that it is built on. -/
def additions (s : Session) (id : ClassId) : List Bool :=
  [(s.own? id Attribute.weakReference).isSome, (s.own? id Attribute.all).isSome]

/-- Whether the objects of two classes are laid out alike. -/
def alike (s : Session) (a b : ClassId) : Bool :=
  let (a, b) := (layoutOf s a, layoutOf s b)
  a = b ||
    (s.hierarchy.mainBase? (s.hierarchy.bases a) = s.hierarchy.mainBase? (s.hierarchy.bases b) &&
      additions s a = additions s b)

end Layout

section Classes

/-- The fault that no object does without a class. -/
def lastingClass : Fault :=
  typeFault "can't delete __class__ attribute"

/-- Lets an object change to another class. -/
def setClassOf (r class? : Ref) : SessionM Unit := do
  let s ← get
  let old := s.classOf r
  match s.content class? with
  | .type new =>
    if isFixed old || isFixed new then
      fault (typeFault "__class__ assignment only supported for mutable types or ModuleType subclasses")
    else if new = old then return ()
    else
      match s.content r, s.below? r with
      | .object _, _ =>
        if alike s old new then setContent r (.object new)
        else fault (differing "__class__" "object layout" new old s)
      | _, some _ =>
        if alike s old new then modifyCell r fun cell => { cell with below? := some new }
        else fault (differing "__class__" "object layout" new old s)
      | _, none => fault (differing "__class__" "object layout" new old s)
  | _ =>
    let actual := Fault.quoted (s.typeName class?)
    fault (typeFault ("__class__ must be set to a class, not " ++ actual ++ " object"))
where
  /-- The fault that two classes differ in some respect. -/
  differing (name respect : String) (new old : ClassId) (s : Session) : Fault :=
    typeFault (name ++ " assignment: '" ++ s.classTypeName new ++ "' " ++ respect ++ " differs from '" ++
      s.classTypeName old ++ "'")

/-- The text that is to be a name of a class. -/
def nameFor (id : ClassId) (field : String) (r : Ref) : SessionM String := do
  let s ← get
  match s.text? r with
  | some t => return t.content
  | none => fault (.wrongContent "string" (s.hierarchy.name id) field ("'" ++ s.typeName r ++ "'"))

/-- The class among the bases that are to be given to a class. -/
def baseFor (id : ClassId) (base : Ref) : SessionM ClassId := do
  let s ← get
  match s.content base with
  | .type c =>
    if (s.hierarchy.lineage c).contains id then
      fault (typeFault "a __bases__ item causes an inheritance cycle")
    else return c
  | _ =>
    fault (typeFault (s.hierarchy.name id ++ ".__bases__ must be tuple of classes, not '" ++
      s.typeName base ++ "'"))

/-- Gives a class other bases. -/
def setBases (id : ClassId) (r : Ref) : SessionM Unit := do
  let s ← get
  let h := s.hierarchy
  match s.content r with
  | .tuple [] => fault (.wrongContent "non-empty tuple" (h.name id) "__bases__" "()")
  | .tuple items =>
    let bases ← items.mapM (baseFor id)
    (h.checkBases bases : SessionM Unit)
    let old := (h.mainBase? (h.bases id)).getD Hierarchy.objectId
    let new := (h.mainBase? bases).getD Hierarchy.objectId
    if isLinked old != isLinked new then
      fault (setClassOf.differing "__bases__" "deallocator" new old s)
    else if alike s old new then setHierarchy (← (h.rebase id bases : SessionM _))
    else fault (setClassOf.differing "__bases__" "object layout" new old s)
  | _ => fault (.wrongContent "tuple" (h.name id) "__bases__" (s.typeName r))

/-- Whether a class keeps a named value under a name. -/
def isNamedValue (s : Session) (id : ClassId) (name : String) : Bool :=
  s.classOfClass id = .enumerationClasses &&
    match (s.own? id name).map s.content with
    | some (.atom v) => v.isNamed
    | _ => false

/-- The names under which a class shows what cannot be changed. -/
def isReadOnly (name : String) : Bool :=
  ["__mro__", "__base__", "__basicsize__", "__itemsize__", "__flags__", "__dictoffset__",
    "__weakrefoffset__"].contains name

/-- The names under which a class shows what is only worked out. -/
def isNotWritable (name : String) : Bool :=
  ["__dict__", "__text_signature__"].contains name

/-- Sets what a class shows under a name. -/
def setClassAttribute (class? : Ref) (id : ClassId) (name : String) (r : Ref) : SessionM Unit := do
  let s ← get
  if isFixed id then fault (.fixedClass name (s.classTypeName id))
  else if isNamedValue s id name then
    fault (accessFault ("cannot reassign member " ++ Inspection.ofString name))
  else if isReadOnly name then fault .readOnly
  else if isNotWritable name then fault (.notWritable name StandingClass.classOfClasses.name)
  else
    match name with
    | "__name__" =>
      let newName ← nameFor id name r
      Hierarchy.checkName newName
      putAttribute class? Attribute.qualifiedName (← qualifiedNameObject id)
      putAttribute class? name r
      setHierarchy (s.hierarchy.rename id newName)
    | "__qualname__" =>
      let _ ← nameFor id name r
      putAttribute class? name r
    | "__bases__" => setBases id r
    | "__class__" => setClassOf class? r
    | _ => setOwn id name r

/-- Deletes what a class shows under a name. -/
def deleteClassAttribute (id : ClassId) (name : String) : SessionM Unit := do
  let s ← get
  if isFixed id then fault (.fixedClass name (s.classTypeName id))
  else if isNamedValue s id name then
    fault (accessFault (Inspection.ofString (s.hierarchy.name id) ++ " cannot delete member " ++
      Inspection.ofString name ++ "."))
  else if isReadOnly name then fault .readOnly
  else if isNotWritable name then fault (.notWritable name StandingClass.classOfClasses.name)
  else
    match name with
    | "__name__" | "__qualname__" | "__module__" | "__doc__" | "__bases__" =>
      fault (.lastingAttribute name (s.hierarchy.name id))
    | "__class__" => fault lastingClass
    | _ => do setHierarchy (← s.hierarchy.deleteAttribute id name)

end Classes

section Parts

/-- The fault that an object shows something under a name without its being an own attribute. -/
def commonFault (r : Ref) (name : String) : SessionM Unit := do
  let s ← get
  if (s.kept? (s.classOf r) name).isSome then
    fault (accessFault (Fault.quoted (s.typeName r) ++ " object attribute '" ++ name ++ "' is read-only"))
  else failMissing r name

/-- Refuses to change a field of an object. -/
def refuseField (r : Ref) (verb name : String) : SessionM Unit := do
  let s ← get
  match (s.kept? (s.classOf r) name).map s.content with
  | some (.member m) =>
    if m.sort = .part then fault .readOnly
    else if m.sort = .field then
      if m.owner = StandingClass.enumeration.id && (namingField? m.name).isSome then
        fault (accessFault ("<enum 'Enum'> cannot " ++ verb ++ " attribute '" ++ name ++ "'"))
      else fault (.notWritable name (s.classTypeName m.owner))
    else return ()
  | _ => return ()

/-- Lets a mapping hold the attributes of an object. -/
def replaceAttributes (r mapping : Ref) : SessionM Unit := do
  let s ← get
  match s.content mapping with
  | .dict _ => setNamespace r (some mapping)
  | _ =>
    let actual := Fault.quoted (s.typeName mapping)
    fault (typeFault ("__dict__ must be set to a dictionary, not a " ++ actual))

/-- Sets what a function shows of itself, if the name is one of that. -/
def setFunctionField (r : Ref) (name : String) (part : Ref) : SessionM Unit := do
  let s ← get
  match name with
  | "__name__" | "__qualname__" =>
    if (s.text? part).isSome then putAttribute r name part
    else fault (typeFault (name ++ " must be set to a string object"))
  | "__closure__" | "__globals__" | "__builtins__" => fault .readOnly
  | "__code__" => fault (typeFault "__code__ must be set to a code object")
  | "__defaults__" => fault (typeFault "__defaults__ must be set to a tuple object")
  | "__kwdefaults__" | "__annotations__" => fault (typeFault (name ++ " must be set to a dict object"))
  | _ => putAttribute r name part

/-- Sets what an object shows under a name, whatever its class says of changes. -/
def setPart (r : Ref) (name : String) (part : Ref) : SessionM Unit := do
  let s ← get
  if name = Attribute.ofClass then setClassOf r part
  else if name = Attribute.all && s.isOpen r then replaceAttributes r part
  else
    match s.content r with
    | .function _ => setFunctionField r name part
    | _ =>
      refuseField r "set" name
      if s.isOpen r then putAttribute r name part else commonFault r name

/-- Deletes what an object shows under a name, whatever its class says of changes. -/
def deletePart (r : Ref) (name : String) : SessionM Unit := do
  let s ← get
  if name = Attribute.ofClass then fault lastingClass
  else if name = Attribute.all && s.isOpen r then setNamespace r none
  else
    refuseField r "delete" name
    if s.isOpen r then
      if (s.attribute? r name).isSome then removeAttribute r name else failMissing r name
    else commonFault r name

/-- Whether the objects of a class refuse a change of what they show under a name. -/
def isFrozen (s : Session) (id : ClassId) (action : Action) (name : String) : Bool :=
  match s.function? id action with
  | some f => f.owner.id = id || ((f.owner.fields?).getD []).contains name
  | none => false

/-- Sets what an object shows under a name. -/
def setAttribute (r : Ref) (name : String) (part : Ref) : SessionM Unit := do
  let s ← get
  match s.content r, s.madeOf? r with
  | .type id, _ => setClassAttribute r id name part
  | _, some id =>
    if isFrozen s id .refuseChange name then fault (.frozenField false name)
    else if s.isBelow id .model && !name.startsWith "_" then fail (frozenStyle name)
    else setPart r name part
  | _, none => setPart r name part

/-- Deletes what an object shows under a name. -/
def deleteAttribute (r : Ref) (name : String) : SessionM Unit := do
  let s ← get
  match s.content r, s.madeOf? r with
  | .type id, _ => deleteClassAttribute id name
  | _, some id =>
    if isFrozen s id .refuseDeletion name then fault (.frozenField true name)
    else if s.isBelow id .model then fail (frozenStyle name)
    else deletePart r name
  | _, none => deletePart r name

end Parts

end FilterAlgebra.SessionM
