import FilterAlgebra.Session.Change
import FilterAlgebra.Session.Intake
import FilterAlgebra.Session.Rows
import FilterAlgebra.Session.Substitution

/-!
# Calls of native members

A member of a native class can be called with an object of the class: numbers are
reckoned with, texts are cut and put together, rows and mappings tell their parts and
are changed, and the test of a capability is put to a value. Asked of a class, a member
takes the object as its first operand.
-/

set_option autoImplicit false

namespace FilterAlgebra.SessionM

/-- The text that an operand is as the name of an attribute. -/
def attributeName (r : Ref) : SessionM String := do
  let s ← get
  match s.text? r with
  | some t => return t.content
  | none => fault (memberFault ("attribute name must be string, not '" ++ s.typeName r ++ "'"))

/-- Whether an object is equal to another as the class of the object compares them, if it does. -/
def equalByClass? (s : Session) (a b : Ref) : Except Fault (Option Bool) :=
  match s.function? (s.classOf a) .sameAs with
  | some f =>
    if s.classOf a = s.classOf b then some <$> Equality.sameObjects s s.equal f.owner a b else .ok none
  | none => .ok (if a = b then some true else none)

/-- What the operators do that all objects have. -/
def callOfObject (name : String) (self : Ref) (operands : List Ref) : SessionM Ref := do
  match name, operands with
  | "__eq__", [other] => if self = other then newTruth true else noAnswer
  | "__ne__", [other] => do
    match ← (equalByClass? (← get) self other : SessionM (Option Bool)) with
    | some equal => newTruth !equal
    | none => noAnswer
  | "__lt__", [_] | "__le__", [_] | "__gt__", [_] | "__ge__", [_] => noAnswer
  | "__setattr__", [name, part] => do
    setPart self (← attributeName name) part
    absent
  | "__delattr__", [name] => do
    deletePart self (← attributeName name)
    absent
  | _, _ => fault .wrongOperands

/-- What a member gives that collections without an order have: what two of them have in common, with
the first one's changeability. Nothing else is known to them. -/
def callOfCollection (name : String) (self : Ref) (frozen : Bool) (items operands : List Ref) :
    SessionM Ref := do
  match name, operands with
  | "__and__", [other] | "__rand__", [other] =>
    let s ← get
    match s.content other with
    | .collection _ others =>
      let common ← (items.filterM fun item => s.contains item others : SessionM (List Ref))
      if frozen then newCollection common else newObject (.collection false common) []
    | _ => noAnswer
  | _, _ => callOfObject name self operands

/-- The class that keeps what objects of a class have under a name. -/
def keeper (s : Session) (id : ClassId) (name : String) : ClassId :=
  ((s.slot? id name).map (·.1)).getD Hierarchy.objectId

/-- Sets up an object that has nothing to be set up: more than the object is only put up with where it was
taken when the object was made. -/
def setUpNothing (self : Ref) (isGivenMore : Bool) : SessionM Ref := do
  let s ← get
  let id := s.classOf self
  let complaint := "__init__() takes exactly one argument (the instance to initialize)"
  if isGivenMore && keeper s id "__init__" ≠ Hierarchy.objectId then
    fault (memberFault ("object." ++ complaint))
  else if isGivenMore && keeper s id "__new__" = Hierarchy.objectId then
    fault (memberFault (s.typeName self ++ "." ++ complaint))
  else absent

/-- What a member of a value gives that refers to no others. An operator of integers takes a truth value
for an integer. -/
def callOfValue (m : Member) (self : Ref) (operands : List Ref) : SessionM Ref := do
  let v ← valueOf self
  let values ← operands.mapM valueOf
  let ofIntegers := m.owner = StandingClass.builtIn .int
  match Comparison.ofName? m.name, values with
  | some c, [w] =>
    match ← (v.compareBy c w : SessionM (Option Bool)) with
    | some answer => newTruth answer
    | none => noAnswer
  | _, _ =>
    let v := if ofIntegers then (v.held.index?.map Value.int).getD v else v
    match (v.writingMember? m.name values).or (v.numberMember? m.name values) with
    | some reply => replied reply
    | none => fault .wrongOperands

/-- What a member gives that a class itself is asked for. -/
def callOfClass (name : String) (id : ClassId) (operands : List Ref) : SessionM Ref := do
  match name, operands with
  | "fromkeys", keys :: other =>
    let other ← (other.head?.elim absent pure : SessionM Ref)
    if id = StandingClass.builtIn .dict then
      newObject (.dict (← entriesWith [] ((← itemsOf keys).map fun key => (key, other)))) []
    else fault .wrongOperands
  | _, _ => fault .wrongOperands

/-- What a member of classes gives. -/
def callOfType (name : String) (self : Ref) (id : ClassId) (operands : List Ref) : SessionM Ref := do
  let s ← get
  match name, operands with
  | "mro", [] => do newObject (.list (← (s.hierarchy.lineage id).mapM classObject)) []
  | "__instancecheck__", [r] => newTruth ((s.hierarchy.lineage (s.classOf r)).contains id)
  | "__subclasscheck__", [r] =>
    match s.content r with
    | .type below => newTruth ((s.hierarchy.lineage below).contains id)
    | _ => fault (memberFault "issubclass() arg 1 must be a class")
  | "__setattr__", [name, part] => do
    checkChangeable s id name
    setClassAttribute self id (← attributeName name) part
    absent
  | "__delattr__", [name] => do
    checkChangeable s id name
    deleteClassAttribute id (← attributeName name)
    absent
  | "__init__", operands =>
    if operands.length = 1 || operands.length = 3 then absent
    else fault (memberFault "type.__init__() takes 1 or 3 arguments")
  | name, operands => callOfObject name self operands
where
  /-- Makes sure that a class takes changes. -/
  checkChangeable (s : Session) (id : ClassId) (name : Ref) : SessionM Unit := do
    if isFixed id then
      let shown ← ((s.value name).inspect : SessionM String)
      let word := "'" ++ s.classTypeName id ++ "'"
      fault (memberFault ("cannot set " ++ shown ++ " attribute of immutable type " ++ word))
    else return ()

section Calls

variable (call : Caller)

/-- Items put together with a text or bytes between each two of them. -/
def joinItems (self row : Ref) : SessionM Ref := do
  let items ← tryCatch (itemsOf row) fun _ => fault (memberFault "can only join an iterable")
  let values ← items.mapM valueOf
  let v ← valueOf self
  match Value.characters? v, Value.content? v with
  | some chars, _ => replied (Value.ofCharacters.join chars values)
  | none, some content => replied (Value.ofBytes.join content values)
  | none, none => fault .wrongOperands

/-- An object shown in a format that is an object itself. -/
def formattedBy (m : Member) (self format : Ref) : SessionM Ref := do
  let s ← get
  match s.text? format with
  | some t =>
    if m.owner = Hierarchy.objectId && !t.content.isEmpty then
      let word := clip Fault.longNameLimit (s.typeName self)
      fault (memberFault ("unsupported format string passed to " ++ word ++ ".__format__"))
    else shownIn call self t.content.toList
  | none =>
    if m.owner = StandingClass.builtIn .decimal then fault (memberFault "format arg must be str")
    else
      let word := (s.value format).operandWord
      fault (memberFault ("__format__() argument must be str, not " ++ word))

/-- What a member says that is not given what it takes. -/
def checkIntake (m : Member) (fullName : String) (args : Arguments) : SessionM Unit := do
  let takesNames := ["format", "update", "__init__", "__call__", "__new__"].contains m.name
  if !args.named.isEmpty && !takesNames then
    let what := if m.sort = .operator then "wrapper " ++ m.name else fullName
    fault (memberFault (what ++ "() takes no keyword arguments"))
  else
    match m.intake.complaint? m.name fullName args.positional.length with
    | some complaint => fault (memberFault complaint)
    | none => return ()

/-- What a member gives for an object of its class, given what it takes. -/
def performMember (m : Member) (self : Ref) (args : Arguments) : SessionM Ref := do
  let s ← get
  let isOfObjects := m.owner = Hierarchy.objectId
  match m.name, s.content self, args.positional with
  | "__call__", _, _ => call self args
  | "__getattribute__", _, [name] => do attributeOf self (← attributeName name)
  | "__repr__", _, [] => do newText (← ((← valueOf self).held.inspect : SessionM String))
  | "__str__", _, [] =>
    if isOfObjects then newText (← ((← valueOf self).inspect : SessionM String)) else textObjectOf call self
  | "__format__", _, [format] => formattedBy call m self format
  | "validate_python", .validator test, [v] => pass call test v
  | "isinstance_python", .validator test, [v] => do newTruth (← outcomeOfTest call test v).isOk
  | "format", .atom (.text _), operands => substitute call self operands
  | "join", .atom _, [row] => joinItems self row
  | name, .type id, operands =>
    if m.sort = .ofClass then callOfClass name id operands
    else if isOfObjects && name = "__init__" then setUpNothing self (!operands.isEmpty || !args.named.isEmpty)
    else if isOfObjects then callOfObject name self operands
    else callOfType name self id operands
  | name, content, operands =>
    if m.sort = .ofClass then callOfClass name (s.classOf self) operands
    else if isOfObjects && name = "__init__" then setUpNothing self (!operands.isEmpty || !args.named.isEmpty)
    else if isOfObjects then callOfObject name self operands
    else
      match content with
      | .atom _ => callOfValue m self operands
      | .list items => callOfList name self items operands
      | .tuple items => callOfRow name self false items operands
      | .dict entries => callOfDict call name self entries args
      | .collection frozen items => callOfCollection name self frozen items operands
      | _ =>
        match ← entriesOf? self with
        | some entries => callOfMapping name self entries operands
        | none => callOfObject name self operands

/-- What a member gives for an object of its class. -/
def callMember (m : Member) (self : Ref) (args : Arguments) : SessionM Ref := do
  let s ← get
  let className := match s.content self with
    | .type id => if m.sort = .ofClass then s.qualifiedName id else s.qualifiedName (s.classOf self)
    | _ => s.qualifiedName (s.classOf self)
  checkIntake m (className ++ "." ++ m.name) args
  performMember call m self args

/-- What a member gives that is asked of its class: the first operand is the object. -/
def callUnbound (m : Member) (args : Arguments) : SessionM Ref := do
  let s ← get
  let owner := s.classTypeName m.owner
  match m.sort, args.positional with
  | .field, _ | .part, _ => fault (.notCallable m.type.name)
  | .ofClass, _ => fault .wrongOperands
  | .operator, [] =>
    fault (memberFault ("descriptor '" ++ m.name ++ "' of '" ++ owner ++ "' object needs an argument"))
  | .method, [] => fault (memberFault ("unbound method " ++ owner ++ "." ++ m.name ++ "() needs an argument"))
  | sort, self :: operands =>
    if (s.hierarchy.lineage (s.classOf self)).contains m.owner then
      let args := { args with positional := operands }
      checkIntake m (s.hierarchy.name m.owner ++ "." ++ m.name) args
      performMember call m self args
    else
      let member := "descriptor '" ++ m.name ++ "' "
      let actual := "'" ++ s.typeName self ++ "'"
      if sort = .operator then
        fault (memberFault (member ++ "requires a '" ++ owner ++ "' object but received a " ++ actual))
      else
        fault (memberFault
          (member ++ "for '" ++ owner ++ "' objects doesn't apply to a " ++ actual ++ " object"))

end Calls

end FilterAlgebra.SessionM
