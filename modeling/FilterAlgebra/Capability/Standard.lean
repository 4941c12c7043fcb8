import FilterAlgebra.Capability
import FilterAlgebra.Value.Conversion

/-!
# The capabilities of the library

All tests are strict: a truth value is no integer and a text is never read as a
number. A value of a special form passes as the plain value it stands for, so
what is written never depends on how a value is shown. Integers are written in
decimal, hexadecimal or after a word; texts between quotation marks;
floating-point numbers by their shortest text; pairs between brackets.
-/

set_option autoImplicit false

namespace FilterAlgebra

/-- A single issue with the value as a whole. -/
def Expectation.unmet (expected : Expectation) : List Issue :=
  [⟨[], expected⟩]

namespace Validation

/-- The plain integer behind a value. -/
def strictInteger (v : Value) : Except (List Issue) Int :=
  match v.integer? with
  | some n => .ok n
  | none => .error Expectation.integer.unmet

/-- The plain text behind a value. -/
def strictText (v : Value) : Except (List Issue) String :=
  match v.text? with
  | some s => .ok s
  | none => .error Expectation.text.unmet

/-- A finite floating-point number. -/
def finiteFloat (v : Value) : Except (List Issue) Binary64 :=
  match v.float? with
  | some x => if x.isFinite then .ok x else .error Expectation.finiteNumber.unmet
  | none => .error (Expectation.instanceOf "float").unmet

/-- An even integer. -/
def evenInteger (v : Value) : Except (List Issue) Int := do
  let n ← strictInteger v
  if n % 2 = 0 then return n else .error (Expectation.bounded .multipleOf (toString 2)).unmet

/-- A text of one to three characters. -/
def shortText (v : Value) : Except (List Issue) String := do
  let s ← strictText v
  if s.length < 1 then .error (Expectation.minLength .text 1).unmet
  else if 3 < s.length then .error (Expectation.maxLength .text 3).unmet
  else return s

/-- A truth value. -/
def strictBool : Value → Except (List Issue) Bool
  | .bool b => .ok b
  | _ => .error Expectation.truthValue.unmet

/-- A finite decimal. -/
def finiteDecimal (v : Value) : Except (List Issue) Decimal :=
  match v.decimal? with
  | some d => if d.isFinite then .ok d else .error Expectation.finiteNumber.unmet
  | none => .error (Expectation.instanceOf "Decimal").unmet

/-- The issues of an outcome, moved to the item of the given number. -/
def issuesAt {α : Type} (i : Nat) : Except (List Issue) α → List Issue
  | .ok _ => []
  | .error issues => issues.map fun issue => { issue with place := .index i :: issue.place }

/-- An item that is missing. -/
def missingAt (i : Nat) : Issue :=
  ⟨[.index i], .present⟩

/-- An integer and a text, tested item by item; all issues are reported, but
too many items alone. -/
def pair (v : Value) : Except (List Issue) (Int × String) :=
  match v.held with
  | .tuple [] => .error [missingAt 0, missingAt 1]
  | .tuple [first] => .error (issuesAt 0 (strictInteger first) ++ [missingAt 1])
  | .tuple [first, second] =>
    match strictInteger first, strictText second with
    | .ok n, .ok s => .ok (n, s)
    | n, s => .error (issuesAt 0 n ++ issuesAt 1 s)
  | .tuple items => .error (Expectation.maxLength (.container "Tuple" (some items.length)) 2).unmet
  | _ => .error Expectation.tuple.unmet

end Validation

namespace QuoteStyle

/-- A text between two marks, as it is. -/
def enclose (style : QuoteStyle) (body : String) : String :=
  { style with doubled := false }.quote body

/-- Why marks cannot be doubled in a value that is no text. -/
def noMarks (v : Value) : Fault :=
  match v.held with
  | .bytes _ => .needsBytes "str"
  | .type .str => .badArguments .type "replace expected at least 2 arguments, got 1"
  | .type .bytes =>
    .badArguments .type "descriptor 'replace' for 'bytes' objects doesn't apply to a 'str' object"
  | _ => .missingAttribute v.holder "replace"

/-- Any value between quotation marks. Only texts have marks that could be doubled. -/
def quoteValue (style : QuoteStyle) (v : Value) : Except Fault String :=
  match v.held with
  | .text (.plain s) => .ok (style.quote s)
  | .text (.custom _) => .ok (style.enclose Text.customLabel)
  | .text (.tag t) => .ok (style.quote t.content)
  | _ => if style.doubled then .error (noMarks v) else style.enclose <$> v.display

end QuoteStyle

/-- The first two items of a value between brackets. -/
def formatPair (v : Value) : Except Fault String := do
  let first ← v.item 0
  let first ← first.display
  let second ← v.item 1
  let second ← second.display
  return "[" ++ first ++ ";" ++ second ++ "]"

namespace StandardCapability

/-- The test of a capability. What passes is handed on in plain form. -/
def validate : StandardCapability → Value → Except (List Issue) Value
  | integer, v | hexInteger, v => Value.int <$> Validation.strictInteger v
  | text _, v => Value.str <$> Validation.strictText v
  | double, v => Value.float <$> Validation.finiteFloat v
  | evenInteger, v => Value.int <$> Validation.evenInteger v
  | shortText _, v => Value.str <$> Validation.shortText v
  | boolean, v => Value.bool <$> Validation.strictBool v
  | decimal, v => Value.decimal <$> Validation.finiteDecimal v
  | pair, v => (fun (n, s) => .tuple [.int n, .str s]) <$> Validation.pair v

/-- How a capability writes a value. -/
def format : StandardCapability → Value → Except Fault String
  | integer, v | decimal, v => v.display
  | text style, v | shortText style, v => style.quoteValue v
  | double, v => Binary64.text <$> v.asFloat
  | hexInteger, v => Numeral.hexadecimal <$> v.asInteger
  | evenInteger, v => ("even:" ++ ·) <$> v.display
  | boolean, v => .ok (if v.truth then "true" else "false")
  | pair, v => formatPair v

/-- The capabilities of the catalogue serve built-in classes. -/
theorem isClass_type (c : StandardCapability) : c.type.isClass = true := by
  cases c <;> rfl

/-- A capability of the catalogue as a capability. -/
def toCapability (c : StandardCapability) : Capability where
  className := c.className
  type := c.type
  validate := c.validate
  format := c.format
  classType := c.isClass_type

end StandardCapability

namespace Node

/-- An integer literal. -/
def integer (v : Value) : Traced Node :=
  StandardCapability.integer.toCapability.asExpression v

/-- A text literal in apostrophes, nothing doubled. -/
def string (v : Value) : Traced Node :=
  (StandardCapability.text {}).toCapability.asExpression v

end Node

end FilterAlgebra
