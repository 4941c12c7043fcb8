import FilterAlgebra.Number.Binary64Text
import FilterAlgebra.Value

/-!
# Inspection of values

The inspection form of a value is what debug records and listings show of it.
Every value of the library has one, except that an integer of too many digits has
none, and neither has anything that holds one. The parts of a value are inspected
in their order, and the first that has no form is to blame.
-/

set_option autoImplicit false

namespace FilterAlgebra

/-- The label under which every custom integer is shown. -/
def customIntLabel : String := "<MyInt>"

/-- The label under which every custom floating-point number is shown. -/
def customFloatLabel : String := "<MyFloat>"

/-- The word for a truth value. -/
def boolWord (b : Bool) : String :=
  if b then "True" else "False"

namespace Inspection

/-- Items between brackets, separated by commas. -/
def sequence (opening : String) (items : List String) (closing : String) : String :=
  opening ++ ", ".intercalate items ++ closing

/-- The items of a tuple; a single item is followed by a comma. -/
def tuple : List String → String
  | [item] => "(" ++ item ++ ",)"
  | items => sequence "(" items ")"

/-- The forms of some parts, unless one of them has none. -/
def all (parts : List (Except Fault String)) : Except Fault (List String) :=
  parts.mapM id

/-- An entry of a mapping: a key, a colon and what it is mapped to. -/
def entry (key value : Except Fault String) : Except Fault String := do
  let key ← key
  let value ← value
  return key ++ ": " ++ value

/-- Entries between braces. -/
def mapping (keys values : List (Except Fault String)) : Except Fault String := do
  let entries ← all (List.zipWith entry keys values)
  return sequence "\x7b" entries "\x7d"

/-- A class name with named fields between parentheses. -/
def fields (className : String) (entries : List (String × String)) : String :=
  sequence (className ++ "(") (entries.map fun (key, value) => key ++ "=" ++ value) ")"

end Inspection

namespace Numeral

/-- The decimal numeral of an integer, or the fault that it would have too many digits. -/
def written (n : Int) : Except Fault String :=
  Fault.tooManyDigits.ofOption (decimal? n)

end Numeral

mutual

/-- The inspection form of a node: its class and its fields. -/
def Node.inspect : Node → Except Fault String
  | .property kind name => .ok (Inspection.fields kind.className [("name", name.inspect)])
  | .literal type text => do
    let type ← type.inspect
    return Inspection.fields "LiteralExpr"
      [("semantic_type", type), ("text", Inspection.ofString text)]
  | .call function arg type => do
    let arg ← arg.inspect
    let type ← type.inspect
    return Inspection.fields "CallExpr"
      [("name", Inspection.ofString function), ("arg", arg), ("semantic_type", type)]
  | .binary left sign right type => do
    let left ← left.inspect
    let right ← right.inspect
    let type ← type.inspect
    return Inspection.fields "BinaryOpExpr"
      [("left", left), ("op", Inspection.ofString sign), ("right", right),
       ("semantic_type", type)]

/-- The inspection form of a value. -/
def Value.inspect : Value → Except Fault String
  | .node n => n.inspect
  | .none => .ok "None"
  | .bool b => .ok (boolWord b)
  | .int n => Numeral.written n
  | .customInt _ => .ok customIntLabel
  | .color c => .ok ("<Color." ++ c.name ++ ": " ++ Numeral.decimal c.number ++ ">")
  | .float x => .ok x.text
  | .customFloat _ => .ok customFloatLabel
  | .text t => .ok t.inspect
  | .bytes content => .ok (Inspection.ofBytes content)
  | .decimal d => .ok ("Decimal('" ++ d.text ++ "')")
  | .list items => do
    let items ← Inspection.all (inspectEach items)
    return Inspection.sequence "[" items "]"
  | .tuple items => do
    let items ← Inspection.all (inspectEach items)
    return Inspection.tuple items
  | .dict keys values => Inspection.mapping (inspectEach keys) (inspectEach values)
  | .listing names members => do
    let entries ← Inspection.mapping (names.map (.ok ∘ Inspection.ofString)) (inspectEach members)
    return "mappingproxy(" ++ entries ++ ")"
  | .type t => t.inspect
  | .style s => .ok s.inspect
  | .derived h _ | .object h => h.shown

/-- The inspection form of each of some values. -/
def inspectEach : List Value → List (Except Fault String)
  | [] => []
  | v :: rest => v.inspect :: inspectEach rest

end

end FilterAlgebra
