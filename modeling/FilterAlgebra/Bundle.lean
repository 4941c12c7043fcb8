import FilterAlgebra.Capability
import FilterAlgebra.Node.Joining

/-!
# Bundles of capabilities

A bundle is the list of capabilities that are active while a filter is built. It
turns operands into expressions: nodes stand for themselves, and a raw operand is
converted by the capability of the type that is asked for or, when none is asked
for, by the first capability that accepts it. In a comparison a raw operand takes
the type of the node it faces and is written on the right.

`Lifting` states these rules for operands and capabilities of any kind; a bundle
is the case of operands that are values.
-/

set_option autoImplicit false

namespace FilterAlgebra

/-- How operands of a kind `O` are converted by capabilities of a kind `C`. -/
structure Lifting (m : Type → Type) (O C : Type) where
  /-- The active capabilities in the order of their registration. -/
  members : m (List C)
  /-- The capability that serves a type, which must be active. -/
  capabilityFor : SemanticType → m C
  accepts : C → O → m Bool
  convert : C → O → m O

namespace Lifting

variable {m : Type → Type} [Monad m] {O C : Type}

/-- The first of some capabilities that accepts an operand. -/
def firstAccepting (lifting : Lifting m O C) (o : O) : List C → m (Option C)
  | [] => return none
  | c :: rest => do
    if ← lifting.accepts c o then return some c else firstAccepting lifting o rest

/-- An expression where a type is required. -/
def requireType (operands : Operands m O) (o : O) (required : SemanticType) : m O := do
  let actual ← operands.typeOf o
  if actual = required then return o
  else
    let a ← operands.check actual.name
    let r ← operands.check required.name
    operands.refuse o (.wrongType a r) (some required)

/-- Turns an operand into an expression of the given type. -/
def liftTo (lifting : Lifting m O C) (operands : Operands m O) (o : O) (type : SemanticType) :
    m O := do
  if ← operands.isNode o then requireType operands o type
  else
    let capability ← lifting.capabilityFor type
    lifting.convert capability o

/-- Turns an operand into an expression of the first type that will do. -/
def liftAny (lifting : Lifting m O C) (operands : Operands m O) (o : O) : m O := do
  if ← operands.isNode o then return o
  else
    match ← lifting.firstAccepting o (← lifting.members) with
    | some capability => lifting.convert capability o
    | none => operands.refuse o (.acceptedByNone (← operands.className o)) none

/-- Turns an operand into an expression of the given type, or of any where no type is required. -/
def lift (lifting : Lifting m O C) (operands : Operands m O) (o : O) (type : SemanticType) : m O :=
  if type = .absent then lifting.liftAny operands o else lifting.liftTo operands o type

end Lifting

namespace Operands

variable {m : Type → Type} [Monad m] {O : Type} (operands : Operands m O)

/-- Compares an expression with an operand, which is lifted to the type of the expression. -/
def equateWith (lift : O → SemanticType → m O) (node o : O) : m O := do
  let type ← operands.typeOf node
  let other ← lift o type
  operands.equate node other

/-- Compares two operands of which each may be raw. -/
def equateLifting (lift : O → SemanticType → m O) (left right : O) : m O := do
  let leftIsNode ← operands.isNode left
  let rightIsNode ← operands.isNode right
  if leftIsNode then
    if rightIsNode then operands.equate left right else operands.equateWith lift left right
  else if rightIsNode then operands.equateWith lift right left
  else
    let lifted ← lift left .absent
    operands.equateWith lift lifted right

end Operands

/-- The active capabilities in the order of their registration. -/
structure Bundle where
  capabilities : List Capability

namespace Bundle

/-- The capability of a type: the first one registered for it. -/
def capability? (bundle : Bundle) (type : SemanticType) : Option Capability :=
  bundle.capabilities.find? (·.type = type)

/-- The capability of a type, which must be active. -/
def capabilityFor (bundle : Bundle) (type : SemanticType) : Traced Capability :=
  match bundle.capability? type with
  | some capability => pure capability
  | none => do
    let name ← Traced.ofFault type.name
    Operands.values.refuse .none (.noCapability name) (some type)

/-- How a bundle converts values. -/
def lifting (bundle : Bundle) : Lifting Traced Value Capability where
  members := pure bundle.capabilities
  capabilityFor := bundle.capabilityFor
  accepts capability v := pure (capability.accepts v)
  convert capability v := Value.node <$> capability.asExpression v

/-- Turns a value into an expression of the given type. -/
def liftTo (bundle : Bundle) (v : Value) (type : SemanticType) : Traced Value :=
  bundle.lifting.liftTo Operands.values v type

/-- Turns a value into an expression of the first type that will do. -/
def liftAny (bundle : Bundle) (v : Value) : Traced Value :=
  bundle.lifting.liftAny Operands.values v

/-- Turns a value into an expression, of a given type unless none is required. -/
def lift (bundle : Bundle) (v : Value) (type : SemanticType) : Traced Value :=
  bundle.lifting.lift Operands.values v type

/-- Compares two operands of which each may be raw. -/
def equate (bundle : Bundle) (left right : Value) : Traced Value :=
  Operands.values.equateLifting bundle.lift left right

/-- Joins two filters. No capability is needed for it. -/
def conjoin (_bundle : Bundle) (left right : Value) : Traced Value :=
  Node.conjoin left right

/-- The record that opens the building of a filter. -/
def opening (bundle : Bundle) : Record :=
  .building bundle.capabilities.length

end Bundle

end FilterAlgebra
