import FilterAlgebra.Value.Inspection

/-!
# Rendering

A node is rendered to query text: a property as its name, a literal as its text, a
call as the function with its operand between parentheses, and a join as its two
operands around the sign, always between parentheses. Only nodes can be rendered,
so a join that holds a raw operand has no text.
-/

set_option autoImplicit false

namespace FilterAlgebra

namespace Rendering

/-- The text of a call, given that of its operand. -/
def call (function arg : String) : String :=
  function ++ "(" ++ arg ++ ")"

/-- The text of a join, given those of its operands. -/
def binary (left sign right : String) : String :=
  "(" ++ left ++ " " ++ sign ++ " " ++ right ++ ")"

end Rendering

mutual

/-- The query text of a node. Of two operands without a text the left one is reported. -/
def Node.render : Node → Except Fault String
  | .property _ name => .ok name.display
  | .literal _ text => .ok text
  | .call function arg _ => do
    let arg ← arg.render
    return Rendering.call function arg
  | .binary left sign right _ => do
    let left ← left.render
    let right ← right.render
    return Rendering.binary left sign right

/-- The query text of a value, which only nodes have. -/
def Value.render : Value → Except Fault String
  | .node n => n.render
  | v => .error (.missingAttribute v.holder "render")

end

/-- The text of a node standing alone. A property gives its name in the form in
which it was given. -/
def Node.toText : Node → Except Fault Text
  | .property _ name => .ok name
  | n => Text.plain <$> n.render

/-- A value as it appears when it is inserted into a text: a node by the content of its text, texts
bare, mappings without the name of their kind. -/
def Value.display : Value → Except Fault String
  | .node n => Text.content <$> n.toText
  | .text t => .ok t.display
  | .color c => .ok (Numeral.decimal c.number)
  | .decimal d => .ok d.text
  | .listing names members =>
    Inspection.mapping (names.map (.ok ∘ Inspection.ofString)) (inspectEach members)
  | .style s => .ok s.display
  | .derived h _ | .object h => h.displayed
  | v => v.inspect

end FilterAlgebra
