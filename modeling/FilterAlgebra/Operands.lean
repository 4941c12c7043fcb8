import FilterAlgebra.Trace

/-!
# Operands

The rules by which operands are joined look at an operand only from the outside:
whether it is an expression, of which type, what its class is called. They can
therefore be stated for operands of any kind. In the algebra itself operands are
values; in a session they are objects that hold values and have an identity
besides. `Operands` lists what a rule may do with operands, and `Operands.values`
says how it is done with values.
-/

set_option autoImplicit false

namespace FilterAlgebra

/-- How operands of a kind `O` are handled in computations of a kind `m`. -/
structure Operands (m : Type → Type) (O : Type) where
  /-- Embeds a run. -/
  run : {α : Type} → Traced α → m α
  /-- Whether an operand is an expression node. -/
  isNode : O → m Bool
  /-- The name of the class of an operand. -/
  className : O → m String
  /-- What an operand is, all of it. -/
  look : O → m Value
  /-- The semantic type of an operand, which must have one. -/
  typeOf : O → m SemanticType
  /-- The filter that joins two operands by a sign. -/
  join : O → String → O → m O
  /-- Refuses an operand. -/
  refuse : {α : Type} → O → Refusal → Option SemanticType → m α

namespace Operands

variable {m : Type → Type} {O : Type}

/-- Embeds an outcome that may be a fault. -/
def check {α : Type} (operands : Operands m O) (outcome : Except Fault α) : m α :=
  operands.run (Traced.ofFault outcome)

/-- Operands that are values. -/
def values : Operands Traced Value where
  run := id
  isNode v := pure v.isNode
  className v := pure v.className
  look := pure
  typeOf v := Traced.ofFault v.semanticType
  join left sign right := pure (.node (.binary left sign right .bool))
  refuse v why target := Traced.fail (.refused why v target none)

@[simp] theorem values_run {α : Type} (run : Traced α) : values.run run = run := rfl

@[simp] theorem values_isNode (v : Value) : values.isNode v = pure v.isNode := rfl

@[simp] theorem values_className (v : Value) : values.className v = pure v.className := rfl

@[simp] theorem values_look (v : Value) : values.look v = pure v := rfl

@[simp] theorem values_typeOf (v : Value) : values.typeOf v = Traced.ofFault v.semanticType := rfl

@[simp] theorem values_join (left : Value) (sign : String) (right : Value) :
    values.join left sign right = pure (.node (.binary left sign right .bool)) := rfl

@[simp] theorem values_refuse {α : Type} (v : Value) (why : Refusal) (target : Option SemanticType) :
    (values.refuse v why target : Traced α) = Traced.fail (.refused why v target none) := rfl

@[simp] theorem values_check {α : Type} (outcome : Except Fault α) :
    values.check outcome = Traced.ofFault outcome := rfl

end Operands

end FilterAlgebra
