import FilterAlgebra.SemanticType
import FilterAlgebra.Text.Quoting

/-!
# The catalogue of capabilities

Here are the names of the capabilities the library provides, what each is called
and which semantic type it serves. What they accept and how they write what they
accepted is said in `FilterAlgebra.Capability.Standard`.
-/

set_option autoImplicit false

namespace FilterAlgebra

/-- The capabilities the library provides. -/
inductive StandardCapability where
  | integer
  | text (style : QuoteStyle)
  | double
  | hexInteger
  | evenInteger
  | shortText (style : QuoteStyle)
  | boolean
  | decimal
  | pair
  deriving DecidableEq

namespace StandardCapability

/-- The name of the class of a capability. -/
def className : StandardCapability → String
  | integer => "IntExpressable"
  | text _ => "TextExpressable"
  | double => "DoubleExpressable"
  | hexInteger => "HexIntExpressable"
  | evenInteger => "EvenIntExpressable"
  | shortText _ => "ShortTextExpressable"
  | boolean => "BoolExpressable"
  | decimal => "DecimalExpressable"
  | pair => "PairExpressable"

/-- The semantic type a capability serves. -/
def type : StandardCapability → SemanticType
  | integer | hexInteger | evenInteger => .int
  | text _ | shortText _ => .str
  | double => .float
  | boolean => .bool
  | decimal => .decimal
  | pair => .tuple

/-- The style of a capability for texts. -/
def style? : StandardCapability → Option QuoteStyle
  | text style | shortText style => some style
  | _ => none

/-- The inspection form of a capability. -/
def inspect (c : StandardCapability) : String :=
  match c.style? with
  | some style => c.className ++ "(config=" ++ style.inspect ++ ")"
  | none => c.className ++ "()"

end StandardCapability

end FilterAlgebra
