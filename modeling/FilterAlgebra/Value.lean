import FilterAlgebra.Capability.Catalogue
import FilterAlgebra.Number.Binary64
import FilterAlgebra.Number.Decimal
import FilterAlgebra.Text

/-!
# Values and expression nodes

A value is anything an operand can be. Some values are expression nodes; all
others are raw. Nodes and values refer to each other, because a join holds its
operands as they were given and a raw container may hold nodes. Of an object that
is none of the values listed here only its handle is known.
-/

set_option autoImplicit false

namespace FilterAlgebra

/-- The kinds of named properties. The base kind has no semantic type, and a declared kind has any
type that it is declared with. -/
inductive PropertyKind where
  | integer
  | text
  | double
  | boolean
  | decimal
  | base
  | declared (className : String) (type : SemanticType)
  deriving DecidableEq

namespace PropertyKind

/-- The name of the class of a kind. -/
def className : PropertyKind → String
  | integer => "Integer"
  | text => "Text"
  | double => "Double"
  | boolean => "Boolean"
  | decimal => "DecimalProperty"
  | base => "Property"
  | declared className _ => className

/-- The semantic type of a kind, if it has one. -/
def type? : PropertyKind → Option SemanticType
  | integer => some .int
  | text => some .str
  | double => some .float
  | boolean => some .bool
  | decimal => some .decimal
  | base => none
  | declared _ type => some type

end PropertyKind

/-- The named integers. -/
inductive Color where
  | red
  | blue
  deriving DecidableEq

/-- The integer a color stands for. -/
def Color.number : Color → Int
  | .red => 1
  | .blue => -2

/-- The name of a color. -/
def Color.name : Color → String
  | .red => "RED"
  | .blue => "BLUE"

/-- The color of a name. -/
def Color.ofName? : String → Option Color
  | "RED" => some .red
  | "BLUE" => some .blue
  | _ => none

mutual

/-- An expression node. -/
inductive Node where
  /-- A named field. -/
  | property (kind : PropertyKind) (name : Text)
  /-- A raw value already written as query text. -/
  | literal (type : SemanticType) (text : String)
  /-- A function applied to an operand. -/
  | call (function : String) (arg : Value) (type : SemanticType)
  /-- Two operands joined by an operator sign. -/
  | binary (left : Value) (sign : String) (right : Value) (type : SemanticType)

/-- Anything an operand can be. -/
inductive Value where
  | node (n : Node)
  | none
  | bool (b : Bool)
  | int (n : Int)
  /-- An integer that is shown under a fixed label. -/
  | customInt (n : Int)
  | color (c : Color)
  | float (x : Binary64)
  /-- A floating-point number that is shown under a fixed label. -/
  | customFloat (x : Binary64)
  | text (t : Text)
  | bytes (content : List UInt8)
  | decimal (d : Decimal)
  | list (items : List Value)
  | tuple (items : List Value)
  /-- The keys and, in the same order, what they are mapped to. -/
  | dict (keys values : List Value)
  /-- A mapping that cannot be changed: names and, in the same order, what they are mapped to. -/
  | listing (names : List String) (members : List Value)
  /-- A class as a value. -/
  | type (t : SemanticType)
  | style (s : QuoteStyle)
  /-- An object of a class below that of a value: what it holds is the value. -/
  | derived (h : Handle) (held : Value)
  /-- Any other object. -/
  | object (h : Handle)

end

/-- A plain text as a value. -/
abbrev Value.str (s : String) : Value :=
  .text (.plain s)

namespace Node

/-- The name of the class of a node. -/
def className : Node → String
  | property kind _ => kind.className
  | literal .. => "LiteralExpr"
  | call .. => "CallExpr"
  | binary .. => "BinaryOpExpr"

/-- The semantic type of a node. Only properties of the base kind have none. -/
def type? : Node → Option SemanticType
  | property kind _ => kind.type?
  | literal type _ | call _ _ type | binary _ _ _ type => some type

end Node

namespace Value

/-- The name of the class of a value. -/
def className : Value → String
  | node n => n.className
  | none => "NoneType"
  | bool _ => "bool"
  | int _ => "int"
  | customInt _ => "MyInt"
  | color _ => "Color"
  | float _ => "float"
  | customFloat _ => "MyFloat"
  | text t => t.className
  | bytes _ => "bytes"
  | decimal _ => "Decimal"
  | list _ => "list"
  | tuple _ => "tuple"
  | dict .. => "dict"
  | type _ => "type"
  | listing .. => "mappingproxy"
  | style _ => "FilterConfig"
  | derived h _ | object h => h.className

/-- The name of the class of a value as most messages give it: that of decimals with its module. -/
def typeName : Value → String
  | decimal _ => SemanticType.decimal.typeName
  | v => v.className

/-- The holder that a value is. -/
def holder : Value → Holder
  | type t => .type t.typeName
  | derived h _ | object h => h.holder
  | v => .object v.typeName

/-- The semantic type of a value. Only expressions have one, and properties of
the base kind have none. -/
def semanticType (v : Value) : Except Fault SemanticType :=
  let missing := Fault.missingAttribute v.holder "semantic_type"
  match v with
  | node n => missing.ofOption n.type?
  | _ => .error missing

/-- Whether a value is an expression node. -/
def isNode : Value → Bool
  | node _ => true
  | _ => false

@[simp] theorem isNode_node (n : Node) : (node n).isNode = true := rfl

/-- A value is an expression node, or it is raw. -/
theorem eq_node_of_isNode {v : Value} (h : v.isNode = true) : ∃ n, v = node n := by
  cases v <;> simp_all [isNode]

theorem semanticType_node_eq_ok {n : Node} {type : SemanticType} :
    (node n).semanticType = .ok type ↔ n.type? = some type := by
  cases h : n.type? <;> simp [semanticType, Fault.ofOption, h]

/-- The value that an object of a class below holds; every other value is one itself. -/
def held : Value → Value
  | derived _ v => v
  | v => v

/-- The integer a value is, in any of the forms of integers. Truth values are no integers. -/
def integer? (v : Value) : Option Int :=
  match v.held with
  | int n | customInt n => some n
  | color c => some c.number
  | _ => Option.none

/-- The text a value is, in any of the forms of texts. -/
def text? (v : Value) : Option String :=
  match v.held with
  | text t => some t.content
  | _ => Option.none

/-- The floating-point number a value is, in either form. -/
def float? (v : Value) : Option Binary64 :=
  match v.held with
  | float x | customFloat x => some x
  | _ => Option.none

/-- The decimal a value is. -/
def decimal? (v : Value) : Option Decimal :=
  match v.held with
  | decimal d => some d
  | _ => Option.none

end Value

end FilterAlgebra
