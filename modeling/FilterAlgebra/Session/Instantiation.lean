import FilterAlgebra.Session.Change
import FilterAlgebra.Session.Construction
import FilterAlgebra.Session.Prelude
import FilterAlgebra.Session.Scopes
import FilterAlgebra.StyleOptions

/-!
# New objects of a class

A class that is not built in gives a new object when it is called. What the call is
given goes to the function of the class that sets up its objects; a class without
such a function takes no operands, and one that leaves functions to the classes below
has no objects. Classes of named values give the value that is asked for.
-/

set_option autoImplicit false

namespace FilterAlgebra.SessionM

/-- A style from options. -/
def styleOfOptions (named : Table Ref) : SessionM QuoteStyle := do
  let options ← named.mapM fun (name, r) => do return (name, ← valueOf r)
  match QuoteStyle.ofOptions options with
  | .ok style => return style
  | .error issues => fail (.invalid issues)

/-- Gives an object the options of a style. -/
def setUpStyle (self : Ref) (named : Table Ref) : SessionM Unit := do
  let style ← styleOfOptions named
  putAttribute self QuoteStyle.markOption (← newText style.mark.char.toString)
  putAttribute self QuoteStyle.doubledOption (← newAtom (.bool style.doubled))

/-- Makes sure that a property has a text that is not empty for its name. -/
def checkName (self : Ref) : SessionM Ref := do
  let name ← attributeOf self Attribute.name
  let s ← get
  if s.textOf name = "" then fault (.emptyName (s.className self)) else absent

section Calls

variable (call : Caller)

/-- Gives an object the fields of a node. The type of a join may be left out. -/
def setUpNode (owner : StandingClass) (self : Ref) (parts : List (Option Ref)) : SessionM Unit := do
  for (name, part?) in (Function.parts owner).zip parts do
    match part? with
    | some part => setPart self name part
    | none => setPart self name (← typeObject .bool)
  if owner.propertyKind?.isSome then
    let _ ← request call self .checkName []

/-- Gives an object the attributes that the objects of a class start with. -/
def setUp (owner : StandingClass) (self : Ref) (parts : List (Option Ref)) (named : Table Ref) :
    SessionM Ref := do
  match owner, parts with
  | .textCapability, style? => setAttribute self Attribute.style (← styleFor style?.head?.join)
  | .rawAdapter, [some capability] => setUpRawAdapter self capability
  | .identityAdapter, [some type] => setAttribute self Attribute.target type
  | .bundle, [some capabilities] => setUpBundle self capabilities
  | .adapterSet, [some adapters] => setUpAdapterSet self adapters
  | .model, _ => if (← get).isBelow ((← get).classOf self) .style then setUpStyle self named
  | owner, parts => setUpNode call owner self parts
  absent

/-- The named value of a class that a value stands for. -/
def namedValueOf (id : ClassId) (value : Ref) : SessionM Ref := do
  let s ← get
  if s.classOf value = id then return value
  else
    match ← ((namedValues s id).findM? fun (_, r) => s.equal value r : SessionM (Option (String × Ref))) with
    | some (_, found) => return found
    | none => do
      let shown ← ((s.value value).inspect : SessionM String)
      fault (.badArguments .value (shown ++ " is not a valid " ++ s.qualifiedName id))

/-- What a class of named values gives when it is called. With names for new values it would be a
class below, which a class with values does not allow. -/
def constructNamed (id : ClassId) (args : Arguments) : SessionM Ref := do
  let refusal := Function.complaint (StandingClass.enumerationClasses.name ++ ".__call__")
  let s ← get
  match args.named, args.positional with
  | (name, _) :: _, _ => fault (refusal ("got an unexpected keyword argument '" ++ name ++ "'"))
  | [], [] => fault (refusal "missing 1 required positional argument: 'value'")
  | [], [value] => namedValueOf id value
  | [], [value, names] =>
    if s.isNone names then namedValueOf id value
    else
      let shown ← ((s.value value).inspect : SessionM String)
      fault (Construction.complaint ("<enum " ++ shown ++ "> cannot extend " ++ s.inspectClass id))
  | [], more =>
    fault (refusal ("takes from 2 to 3 positional arguments but " ++ toString (more.length + 1) ++
      " were given"))

/-- A value under the label of a class. -/
def labelled (c : StandingClass) (v : Value) : Value :=
  match c, v with
  | .customInt, .int n => .customInt n
  | .customFloat, .float x => .customFloat x
  | .customText, .text t => .text (.custom t.content)
  | _, v => v

/-- What the class of classes gives when it is called: the class of its only operand. -/
def constructClass (args : Arguments) : SessionM Ref :=
  match args.positional, args.named with
  | [r], [] => classOf r
  | _, _ => fault (Construction.complaint "type() takes 1 or 3 arguments")

/-- The operands of which a class of classes makes a class. -/
def classOperands (c : StandingClass) : List String :=
  if c = .enumerationClasses then ["cls", "bases", "classdict"]
  else if c = .modelClasses then ["cls_name", "bases", "namespace"]
  else ["name", "bases", "namespace"]

/-- Why one of the other classes of classes gives nothing when it is called with too few operands. -/
def refuseClass (c : StandingClass) (args : Arguments) : SessionM Ref := do
  let missing := (classOperands c).drop args.positional.length
  if missing.isEmpty then fault .wrongOperands
  else
    fault (Function.complaint (c.name ++ ".__new__") ("missing " ++
      counted missing.length "required positional argument" ++ ": " ++
      Function.enumeration (missing.map fun name => "'" ++ name ++ "'")))

/-- The names of the functions that a class leaves to the classes below. -/
def missingFunctions (s : Session) (id : ClassId) : List String :=
  match (s.own? id "__abstractmethods__").map s.content with
  | some (.collection _ names) => names.map s.textOf
  | _ => []

/-- Refuses to make an object of a class that leaves functions to the classes below. -/
def checkComplete (id : ClassId) : SessionM Unit := do
  let s ← get
  match (missingFunctions s id).mergeSort with
  | [] => return ()
  | names =>
    fault (Construction.complaint ("Can't instantiate abstract class " ++ s.hierarchy.name id ++
      " with abstract method" ++ (if names.length = 1 then "" else "s") ++ " " ++ ", ".intercalate names))

/-- What a class keeps to set up its objects, unless it is what a built-in class has. -/
def setUpSlot? (s : Session) (id : ClassId) : Option Ref :=
  match s.slot? id (Action.name .setUp) with
  | some (c, slot) => if (Hierarchy.builtIn? c).isSome then none else s.slotRef? c slot
  | none => none

/-- Sets up a new object by what its class keeps for that. -/
def setUpBy (kept : Ref) (r : Ref) (args : Arguments) : SessionM Unit := do
  let outcome ← call (← presented r kept) args
  let s ← get
  if s.isNone outcome then return ()
  else
    fault (Construction.complaint ("__init__() should return None, not '" ++ s.typeName outcome ++ "'"))

/-- A new object of a class that consists of attributes. -/
def constructObject (id : ClassId) (args : Arguments) : SessionM Ref := do
  let s ← get
  let slot? := setUpSlot? s id
  if slot?.isNone && !(args.positional.isEmpty && args.named.isEmpty) then
    fault (Construction.complaint (s.hierarchy.name id ++ "() takes no arguments"))
  else
    checkComplete id
    let r ← newObject (.object id) []
    if let some kept := slot? then setUpBy call kept r args
    return r

/-- The class among those above a class that shows all its objects under one label. -/
def labelOf? (s : Session) (id : ClassId) : Option StandingClass :=
  [StandingClass.customInt, .customText, .customFloat].find? (s.isBelow id)

/-- A new object of a class below a built-in one: it holds what the built-in class gives. Lists and
mappings are filled when they are set up, so a class that sets them up itself leaves them empty. -/
def constructDerived (id : ClassId) (t : SemanticType) (args : Arguments) : SessionM Ref := do
  let s ← get
  let slot? := setUpSlot? s id
  let isFilledLater := slot?.isSome && (t = .list || t = .dict)
  let plain ← constructBuiltIn call t (if isFilledLater then { positional := [] } else args)
  let content := match (← get).content plain, labelOf? s id with
    | .atom v, some c => Content.atom (labelled c v)
    | content, _ => content
  match (StandingClass.ofId? id).map StandingClass.isLabel, content with
  | some true, .atom v => newAtom v
  | _, content =>
    let r ← newBelow id content
    if let some kept := slot? then setUpBy call kept r args
    return r

/-- What a class keeps to make its objects, if that is no class of the library. -/
def makeSlot? (s : Session) (id : ClassId) : Option Ref :=
  match s.slot? id "__new__" with
  | some (c, slot) =>
    if (Hierarchy.builtIn? c).isSome || (StandingClass.ofId? c).isSome then none else s.slotRef? c slot
  | none => none

/-- What a class gives that makes its objects in its own way: what comes of it is only set up if it
is an object of the class. -/
def constructBy (id : ClassId) (make : Ref) (args : Arguments) : SessionM Ref := do
  let class? ← classObject id
  let r ← call (← presentedByClass class? make) { args with positional := class? :: args.positional }
  let s ← get
  if (s.hierarchy.lineage (s.classOf r)).contains id then
    if let some kept := setUpSlot? s (s.classOf r) then setUpBy call kept r args
  return r

/-- Items without an order, each once. -/
def constructCollection (c : StandingClass) (args : Arguments) : SessionM Ref := do
  match args.positional, args.named with
  | [], [] => if c = .frozenSet then newCollection [] else newObject (.collection false []) []
  | [r], [] =>
    let given ← itemsOf r
    let items ← ((← get).distinct given : SessionM (List Ref))
    if c = .frozenSet then newCollection items else newObject (.collection false items) []
  | more, [] =>
    fault (Construction.complaint (c.name ++ " expected at most 1 argument, got " ++ toString more.length))
  | _, _ :: _ => fault (Construction.complaint (c.name ++ "() takes no keyword arguments"))

/-- A mapping that cannot be changed and shows another one as it is now. -/
def constructListing (positional : List Ref) : SessionM Ref := do
  match positional with
  | [] => fault (Construction.complaint "mappingproxy() missing required argument 'mapping' (pos 1)")
  | [r] =>
    match ← entriesOf? r with
    | some entries => newObject (.listing entries) []
    | none =>
      fault (Construction.complaint
        ("mappingproxy() argument must be a mapping, not " ++ (← get).typeName r))
  | more =>
    fault (Construction.complaint
      ("mappingproxy() takes at most 1 argument (" ++ toString more.length ++ " given)"))

/-- A function together with the object that it is asked of. -/
def constructMethod (positional : List Ref) : SessionM Ref := do
  match positional with
  | [f, self] =>
    let s ← get
    if s.isCallable f then
      if s.isNone self then fault (Construction.complaint "instance must not be None")
      else newObject (.method f self) []
    else fault (Construction.complaint "first argument must be callable")
  | more =>
    fault (Construction.complaint ("method expected 2 arguments, got " ++ toString more.length))

/-- What a class of functions or of parts of classes gives when it is called. -/
def constructNative (c : StandingClass) (args : Arguments) : SessionM Ref := do
  let s ← get
  match c, args.positional with
  | .frozenSet, _ | .mutableSet, _ => constructCollection c args
  | .listing, positional => constructListing positional
  | .method, positional => constructMethod positional
  | .noAnswer, [] => newToken .noAnswer "NotImplemented"
  | .noAnswer, _ => fault (Construction.complaint "NotImplementedType takes no arguments")
  | .function, [] => fault (Construction.complaint "function() missing required argument 'code' (pos 1)")
  | .function, [_] =>
    fault (Construction.complaint "function() missing required argument 'globals' (pos 2)")
  | .function, code :: _ =>
    fault (Construction.complaint ("function() argument 'code' must be code, not " ++ s.typeName code))
  | .containerAlias, positional =>
    fault (Construction.complaint
      ("GenericAlias expected 2 arguments, got " ++ toString positional.length))
  | c, _ =>
    if [StandingClass.nativeFunction, .nativeMethod, .operator, .boundOperator, .nativeField,
        .nativeMember].contains c then
      fault (Construction.complaint ("cannot create '" ++ c.name ++ "' instances"))
    else fault .wrongOperands

/-- What a class gives that is built on a class of functions or of parts of classes. -/
def constructBelow (id : ClassId) (c : StandingClass) (args : Arguments) : SessionM Ref := do
  match c with
  | .classOfClasses =>
    let given := args.positional.length + args.named.length
    fault (Construction.complaint
      ("type.__new__() takes exactly 3 arguments (" ++ toString given ++ " given)"))
  | c =>
    let slot? := setUpSlot? (← get) id
    let plain ← constructNative c (if slot?.isSome then { positional := [] } else args)
    let r ← newBelow id ((← get).content plain)
    if let some kept := slot? then setUpBy call kept r args
    return r

/-- What a class that is called gives. -/
def construct (id : ClassId) (args : Arguments) : SessionM Ref := do
  let s ← get
  match Hierarchy.builtIn? id, StandingClass.ofId? id, makeSlot? s id with
  | some t, _, _ => constructBuiltIn call t args
  | none, some .classOfClasses, _ => constructClass args
  | none, some .abstractClasses, _ => refuseClass .abstractClasses args
  | none, some .modelClasses, _ => refuseClass .modelClasses args
  | none, some .enumerationClasses, _ => refuseClass .enumerationClasses args
  | none, none, some make => constructBy call id make args
  | none, c?, _ =>
    if s.classOfClass id = .enumerationClasses then constructNamed id args
    else
      let held? := s.hierarchy.holds id
      match held?.bind Hierarchy.builtIn?, c?, held?.bind StandingClass.ofId? with
      | some t, _, _ => constructDerived call id t args
      | none, some c, _ => if isFixed id then constructNative c args else constructObject call id args
      | none, none, some c => constructBelow call id c args
      | none, none, none => constructObject call id args

end Calls

end FilterAlgebra.SessionM
