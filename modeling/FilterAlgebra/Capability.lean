import FilterAlgebra.Trace
import FilterAlgebra.Value.Inspection

/-!
# Capabilities

A capability turns raw values into literals of one semantic type, which is a class. It
consists of a test and of a way to write a tested value as query text, which may fail.
Of the test it is assumed that it comes to a verdict: it hands back the value in plain
form or says what is wrong with it. A test that ends in any other way is none of a
capability here; only sessions know such tests, where users can put anything in the
place of one. Nothing else is assumed, so what is proved of all capabilities holds of
every one that users add and whose test comes to a verdict.
-/

set_option autoImplicit false

namespace FilterAlgebra

/-- A capability: the type it serves, its test and its way of writing. -/
structure Capability where
  className : String
  type : SemanticType
  validate : Value → Except (List Issue) Value
  format : Value → Except Fault String
  classType : type.isClass = true

namespace Capability

/-- Whether the test of a capability lets a value pass. Nothing is recorded. -/
def accepts (c : Capability) (v : Value) : Bool :=
  (c.validate v).isOk

/-- The literal for a value that the test let pass. -/
def literal (c : Capability) (plain : Value) : Except Fault Node := do
  let text ← c.format plain
  return .literal c.type text

/-- The run that rejects a value. The record needs the inspection form of the value first. -/
def reject {α : Type} (c : Capability) (v : Value) (issues : List Issue) : Traced α := do
  let shown ← Traced.ofFault v.inspect
  Traced.emit (.rejected c.className v shown issues.length)
  let target ← Traced.ofFault c.type.name
  Traced.fail (.refused (.noConversion v.className target) v (some c.type) (some issues))

/-- Converts a raw value into a literal, or rejects it. -/
def asExpression (c : Capability) (v : Value) : Traced Node :=
  match c.validate v with
  | .ok plain => Traced.ofFault (c.literal plain)
  | .error issues => c.reject v issues

end Capability

end FilterAlgebra
