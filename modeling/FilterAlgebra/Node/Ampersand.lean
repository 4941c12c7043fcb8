import FilterAlgebra.Node.Joining
import FilterAlgebra.Number.Bitwise
import FilterAlgebra.Value.Conversion

/-!
# Joining by the sign

Filters can be joined by the sign `&` as well as by name. What the sign makes of two
operands is a matter of their classes: that of the left operand is asked first, and
that of the right one if the first has no answer. The class of a node answers with
the conjunction, on either side, which may refuse the other operand. Integers answer
each other bit by bit and leave everything else to the other side. A class that users
define may have any answer of its own, so a node on the right has its turn only if the
class of the left operand leaves the sign to it.
-/

set_option autoImplicit false

namespace FilterAlgebra

/-- What the classes of operands of a kind `O` make of the sign. -/
structure SignAnswers (m : Type → Type) (O : Type) where
  /-- The answer of the class of the left operand, if it has one. -/
  ofLeft : O → O → m (Option O)
  /-- The answer of the class of the right operand, if it has one. -/
  ofRight : O → O → m (Option O)
  /-- How it ends if neither class has an answer. -/
  neither : O → O → m O

/-- Joins two operands by the sign. The class of the left one is asked first. -/
def SignAnswers.join {m : Type → Type} [Monad m] {O : Type} (answers : SignAnswers m O)
    (left right : O) : m O := do
  match ← answers.ofLeft left right with
  | some answer => return answer
  | none =>
    match ← answers.ofRight left right with
    | some answer => return answer
    | none => answers.neither left right

/-- What the classes that users define make of the sign, where an object of theirs is the left operand
and where it is the right one. -/
structure ForeignSigns where
  onLeft : Value → Value → Traced (Option Value)
  onRight : Value → Value → Traced (Option Value)

/-- No class that users define has an answer. -/
def ForeignSigns.silent : ForeignSigns where
  onLeft _ _ := pure none
  onRight _ _ := pure none

namespace Value

/-- Whether users may have defined how objects of the class of a value answer the sign. -/
def isForeign : Value → Bool
  | derived .. | object _ | type _ => true
  | _ => false

/-- The bits that two integers have in common; two truth values have a truth value in common. -/
def common? : Value → Value → Option Value
  | bool a, bool b => some (bool (a && b))
  | v, w => do return int (commonBits (← v.index?) (← w.index?))

/-- What the classes of two values make of the sign. -/
def signAnswers (foreign : ForeignSigns) : SignAnswers Traced Value where
  ofLeft left right :=
    if left.isNode then some <$> Node.conjoin left right
    else if left.isForeign then foreign.onLeft left right
    else pure (left.common? right)
  ofRight left right :=
    if right.isNode then some <$> Node.conjoin left right
    else if right.isForeign then foreign.onRight left right
    else pure (left.common? right)
  neither left right := Traced.fail (.fault (.unsupportedOperands "&" left.typeName right.typeName))

end Value

/-- Joins two operands by the sign. -/
def Node.ampersand (foreign : ForeignSigns) (left right : Value) : Traced Value :=
  (Value.signAnswers foreign).join left right

end FilterAlgebra
