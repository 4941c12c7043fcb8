import FilterAlgebra.Session.Attributes

/-!
# Calls and what they need

Whatever has a method can be asked for it, and what an attribute gives can be called
if it is a method, a class or a builder. How calls are carried out is a parameter
here, so that the rules of scopes can be stated before the calls that they make.
Operands of a session are objects, and `operands` says how they are handled.
-/

set_option autoImplicit false

namespace FilterAlgebra

/-- What a call is given. -/
structure Arguments where
  positional : List Ref
  named : Table Ref := []
  /-- What the builder among the operands does with a scope and a receiver. -/
  builder? : Option (Ref → Ref → SessionM Ref) := none

/-- How an object is called. -/
abbrev Caller := Ref → Arguments → SessionM Ref

namespace SessionM

/-- A new join of two operands. -/
def newBinary (left sign right type : Ref) : SessionM Ref :=
  newObject (.object StandingClass.binary.id)
    [(Attribute.left, left), (Attribute.sign, sign), (Attribute.right, right),
     (Attribute.semanticType, type)]

/-- A new literal. -/
def newLiteral (type text : Ref) : SessionM Ref :=
  newObject (.object StandingClass.literal.id) [(Attribute.semanticType, type), (Attribute.text, text)]

/-- The type that an object stands for. -/
def semanticTypeOf (r : Ref) : SessionM SemanticType := do
  typeOf (← attributeOf r Attribute.semanticType)

/-- Refuses an object. -/
def refuse {α : Type} (r : Ref) (why : Refusal) (target : Option SemanticType) : SessionM α := do
  throw ⟨.refused why (← valueOf r) target none, some r⟩

/-- How the operands of a session are handled. -/
def operands : Operands SessionM Ref where
  run := ofTraced
  isNode r := return (← get).isNode r
  className r := return (← get).className r
  look := valueOf
  typeOf := semanticTypeOf
  join left sign right := do
    newBinary left (← wordObject sign) right (← typeObject .bool)
  refuse := refuse

/-- The items of an object that consists of attributes: a style gives its options in pairs. -/
def partsOf (r : Ref) (id : ClassId) : SessionM (List Ref) := do
  let s ← get
  if s.isBelow id .model then
    ((s.attributes r).filter fun (name, _) => !name.startsWith "_").mapM fun (name, part) => do
      newTuple [← newText name, part]
  else fault (.notIterable (s.typeName r))

/-- The items that an object gives when it is gone through. -/
def itemsOf (r : Ref) : SessionM (List Ref) := do
  let s ← get
  match s.content r with
  | .atom _ => do (← ((s.value r).items : SessionM (List Value))).mapM newPlain
  | .list items | .tuple items | .collection _ items => return items
  | .dict entries | .listing entries => return entries.map (·.1)
  | .classListing id => (s.listed id).mapM fun (name, _) => newText name
  | .object id => partsOf r id
  | .type id =>
    if s.classOfClass id = .enumerationClasses then return (namedValues s id).map (·.2)
    else fault (.notIterable (s.typeName r))
  | _ => fault (.notIterable (s.typeName r))

/-- The entries of an object that is a mapping. -/
def entriesOf? (r : Ref) : SessionM (Option (List (Ref × Ref))) := do
  let s ← get
  match s.content r with
  | .classListing id => some <$> (s.listed id).mapM fun (name, part) => do return (← newText name, part)
  | content => return content.entries?

/-- What an object comes to as a truth value. -/
def truthOf (r : Ref) : SessionM Bool := do
  match (← get).content r with
  | .collection _ items => return !items.isEmpty
  | _ => return (← valueOf r).truth

section Calls

variable (call : Caller)

/-- Calls an attribute of an object. -/
def ask (r : Ref) (name : String) (positional : List Ref) : SessionM Ref := do
  call (← attributeOf r name) { positional }

/-- Calls a method of an object. -/
def request (r : Ref) (action : Action) (positional : List Ref) : SessionM Ref :=
  ask call r action.name positional

/-- The query text of a node. -/
def renderedText (r : Ref) : SessionM Ref := do
  let text ← request call r .render []
  let s ← get
  if (s.text? text).isSome then return text
  else fault (.badArguments .type ("__str__ returned non-string (type " ++ s.className text ++ ")"))

/-- An object as it appears when it is inserted into a text. -/
def displayOf (r : Ref) : SessionM String := do
  if (← get).isNode r then textOf (← renderedText call r)
  else (← valueOf r).display

/-- An object as a text: a plain text is one already. -/
def textObjectOf (r : Ref) : SessionM Ref := do
  let s ← get
  match s.content r, s.below? r with
  | .atom (.text (.plain _)), none => return r
  | _, _ => if s.isNode r then renderedText call r else newText (← displayOf call r)

/-- The value of an object, where a node is only known by its text. -/
def settledValue (r : Ref) : SessionM Value := do
  let s ← get
  if s.isNode r then
    let displayed ← tryCatch (Except.ok <$> displayOf call r) fun setback =>
      return match setback.failure with
        | .fault f => .error f
        | _ => .error .wrongOperands
    return .object ⟨r, s.className r, s.holder r, displayed, displayed, displayed⟩
  else valueOf r

/-- The value of an object, where nodes are only known by their texts, and so
are those among its items. -/
def settled (r : Ref) : SessionM Value := do
  match (← get).content r with
  | .list items => return .list (← items.mapM (settledValue call))
  | .tuple items => return .tuple (← items.mapM (settledValue call))
  | .dict entries =>
    return .dict (← entries.mapM fun (key, _) => valueOf key)
      (← entries.mapM fun (_, value) => settledValue call value)
  | _ => settledValue call r

end Calls

end SessionM

end FilterAlgebra
