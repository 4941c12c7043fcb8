import FilterAlgebra.Operands

/-!
# Checked joins

A comparison joins two expressions of one semantic type, and a conjunction joins
two filters, that is, expressions of the truth type. Both refuse anything else
while the tree is built. The left operand is judged before the right one, and
asking for the type of a property that has none fails on its own account.
-/

set_option autoImplicit false

namespace FilterAlgebra

/-- The sign of a comparison. -/
def equalitySign : String := "="

/-- The sign of a conjunction. -/
def conjunctionSign : String := "and"

/-- What a refusal calls an expression of a type. -/
def expressionOf (typeName : String) : String :=
  "Expression[" ++ typeName ++ "]"

namespace Operands

variable {m : Type → Type} [Monad m] {O : Type} (operands : Operands m O)

/-- Makes sure that an operand of a comparison is an expression. -/
def requireNode (o : O) : m Unit := do
  if ← operands.isNode o then return ()
  else operands.refuse o (.notExpression (← operands.className o)) none

/-- The comparison of two expressions of one type. -/
def equate (left right : O) : m O := do
  operands.requireNode left
  operands.requireNode right
  let leftType ← operands.typeOf left
  let rightType ← operands.typeOf right
  if leftType = rightType then operands.join left equalitySign right
  else
    let l ← operands.check leftType.name
    let r ← operands.check rightType.name
    operands.refuse right (.differentTypes (expressionOf l) (expressionOf r)) (some leftType)

/-- Makes sure that an operand is a filter; anything else is refused for the reason given. -/
def requireFilter (reason : String → Refusal) (o : O) : m Unit := do
  if ← operands.isNode o then
    let type ← operands.typeOf o
    if type = .bool then return ()
    else
      let name ← operands.check type.name
      operands.refuse o (reason (expressionOf name)) (some .bool)
  else operands.refuse o (reason (← operands.className o)) (some .bool)

/-- The conjunction of two filters. -/
def conjoin (left right : O) : m O := do
  operands.requireFilter .notFilter left
  operands.requireFilter .notFilter right
  operands.join left conjunctionSign right

/-- What a builder came back with, which must be a filter. -/
def ensureFilter (o : O) : m O := do
  operands.requireFilter .builtNoFilter o
  return o

end Operands

namespace Node

/-- The comparison of two expressions of one type. -/
def equate (left right : Value) : Traced Value :=
  Operands.values.equate left right

/-- The conjunction of two filters. -/
def conjoin (left right : Value) : Traced Value :=
  Operands.values.conjoin left right

/-- What a builder came back with, which must be a filter. -/
def ensureFilter (v : Value) : Traced Value :=
  Operands.values.ensureFilter v

end Node

end FilterAlgebra
