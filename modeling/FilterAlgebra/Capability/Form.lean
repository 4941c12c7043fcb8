import FilterAlgebra.Issue
import FilterAlgebra.Node.Rendering
import FilterAlgebra.Text.Pattern
import FilterAlgebra.Value

/-!
# Forms

A form describes values that a capability accepts: those of one kind within some
bounds, lists and mappings whose parts have forms of their own, and values of one of
several forms. A strict form takes values of its kind only; others also take what can
be read as such a value. `Form.title` is the name under which a form is known.
-/

set_option autoImplicit false

namespace FilterAlgebra

/-- Bounds of numbers. -/
structure Bounds (α : Type) where
  multipleOf : Option α := none
  atMost : Option α := none
  below : Option α := none
  atLeast : Option α := none
  above : Option α := none

/-- Whether there is any bound. -/
def Bounds.isBounding {α : Type} (b : Bounds α) : Bool :=
  b.multipleOf.isSome || b.atMost.isSome || b.below.isSome || b.atLeast.isSome || b.above.isSome

/-- Bounds of a length. -/
structure Lengths where
  least : Option Nat := none
  most : Option Nat := none

/-- Whether there is any bound. -/
def Lengths.isBounding (l : Lengths) : Bool :=
  l.least.isSome || l.most.isSome

/-- A pattern together with the text that it was read from. -/
structure WrittenPattern where
  text : String
  /-- It is read in the classic way, and has to be found at the start of a text. -/
  classic : Bool
  pattern : Pattern

/-- Whether a pattern is found in a text. -/
def WrittenPattern.accepts (written : WrittenPattern) (text : String) : Bool :=
  if written.classic then written.pattern.isFoundAtStart text else written.pattern.isFoundIn text

/-- What a text has to be like, and what becomes of it. -/
structure TextShape where
  /-- What is to be found in the text. -/
  pattern : Option WrittenPattern := none
  lengths : Lengths := {}
  /-- The blanks around the text are dropped. -/
  stripped : Bool := false
  lowered : Bool := false
  raised : Bool := false
  /-- Numbers are written out. -/
  ofNumbers : Bool := false

/-- Whether a shape asks for anything. -/
def TextShape.isShaping (shape : TextShape) : Bool :=
  shape.pattern.isSome || shape.lengths.isBounding || shape.stripped || shape.lowered || shape.raised

/-- How many digits a decimal may have. -/
structure DigitLimits where
  inTotal : Option Nat := none
  places : Option Nat := none

/-- What becomes of the names that a record does not know. -/
inductive OtherNames where
  | dropped
  | kept
  | forbidden
  deriving DecidableEq

/-- A field of a record. -/
structure RecordField where
  name : String
  required : Bool

/-- When a function is called that has a say in a test. -/
inductive FunctionPlace where
  | before
  | after
  /-- There is no other test than the function. -/
  | alone
  deriving DecidableEq

/-- What a capability can be told to accept. -/
inductive Form where
  | anything
  /-- The absent value. -/
  | absent
  | truth (strict : Bool)
  | integer (strict : Bool) (bounds : Bounds Int)
  | float (strict finite : Bool) (bounds : Bounds Binary64)
  | decimal (strict finite : Bool) (bounds : Bounds Decimal) (digits : DigitLimits)
  | text (strict : Bool) (shape : TextShape)
  | bytes (strict : Bool) (lengths : Lengths)
  /-- Some values, and the words for each of them. -/
  | oneOf (expected : List (Value × String))
  /-- Some named values of a class, or what they stand for; the words for it are given with each. What they
  stand for may be read as a number. -/
  | named (strict asNumber : Bool) (type : SemanticType) (shown : String)
    (values : List (Value × Value × String))
  | instanceOf (type : SemanticType) (shown : String)
  | subclassOf (type : SemanticType) (shown : String)
  | callable
  /-- The absent value, or a value of a form. -/
  | optional (form : Form)
  /-- What one form lets pass is given to the next. -/
  | chain (steps : List Form)
  /-- One of several forms: the first that fits, or the one that fits best. -/
  | choice (best : Bool) (choices : List Form)
  | list (strict : Bool) (item : Form) (lengths : Lengths)
  /-- Items of certain forms; the one in a certain place may stand for any number of items. -/
  | tuple (strict : Bool) (items : List Form) (repeated : Option Nat) (lengths : Lengths)
  | mapping (strict : Bool) (key value : Form) (lengths : Lengths)
  | set (frozen strict : Bool) (item : Form) (lengths : Lengths)
  /-- A mapping with certain names; each form is that of the field in its place. -/
  | record (strict : Bool) (fields : List RecordField) (forms : List Form) (others : OtherNames)
  /-- A mapping that says by a tag under a name which form it has. -/
  | byTag (name : String) (tags : List (Value × String)) (forms : List Form)
  /-- A form whose issues are worded in another way. -/
  | worded (issue : Expectation) (form : Form)
  /-- A form with a value that is taken if there is none, and perhaps also for one with issues. -/
  | orElse (default : Option Value) (onIssues : Bool) (form : Form)
  /-- A form and a function that has a say in the test. -/
  | withFunction (place : FunctionPlace) (function : Value) (shown : String) (form : Form)
  /-- A form that goes by another title. -/
  | titled (title : String) (form : Form)

namespace Form

/-- A value in words. -/
def wordsOf (v : Value) : String :=
  match v.display with
  | .ok shown => shown
  | .error _ => ""

/-- Words one after another, with a comma and a word before the last one. -/
def alternatives : List String → String
  | [] => ""
  | [word] => word
  | words => ", ".intercalate words.dropLast ++ " or " ++ words.getLastD ""

/-- A title with the titles of its parts. -/
def withParts (name : String) (separator : String) (parts : List String) : String :=
  name ++ "[" ++ separator.intercalate parts ++ "]"

/-- The title of a form that may have bounds. -/
def bounded (name : String) (isBounded : Bool) : String :=
  if isBounded then "constrained-" ++ name else name

mutual

/-- The name under which a form is known. -/
def title : Form → String
  | anything => "any"
  | absent => "none"
  | truth _ => "bool"
  | integer _ bounds => bounded "int" bounds.isBounding
  | float _ _ bounds => bounded "float" bounds.isBounding
  | decimal .. => "decimal"
  | text _ shape => bounded "str" shape.isShaping
  | bytes _ lengths => bounded "bytes" lengths.isBounding
  | oneOf expected => withParts "literal" "," (expected.map (·.2))
  | named _ asNumber _ shown _ => withParts (if asNumber then "int-enum" else "enum") "," [shown]
  | instanceOf _ shown => withParts "is-instance" "," [shown]
  | subclassOf _ shown => withParts "is-subclass" "," [shown]
  | callable => "callable"
  | optional form => withParts "nullable" "," [form.title]
  | chain steps => withParts "chain" "," (titles steps)
  | choice _ choices => withParts "union" "," (titles choices)
  | list _ item _ => withParts "list" "," [item.title]
  | tuple _ items repeated _ =>
    withParts "tuple" ", " (match repeated with
      | some i => (titles items).zipIdx.map fun (t, place) => if place = i then t ++ ", ..." else t
      | none => titles items)
  | mapping _ key value _ => withParts "dict" "," [key.title, value.title]
  | set frozen _ item _ => withParts (if frozen then "frozenset" else "set") "," [item.title]
  | record .. => "typed-dict"
  | byTag _ _ forms => withParts "tagged-union" "," (titles forms)
  | worded _ form => withParts "custom-error" "," [form.title]
  | orElse _ _ form => withParts "default" "," [form.title]
  | withFunction .alone _ shown _ => withParts "function-plain" ", " [shown ++ "()"]
  | withFunction .before _ shown form => withParts "function-before" ", " [shown ++ "()", form.title]
  | withFunction .after _ shown form => withParts "function-after" ", " [shown ++ "()", form.title]
  | titled title _ => title

/-- The titles of some forms. -/
def titles : List Form → List String
  | [] => []
  | form :: rest => form.title :: titles rest

end

end Form

end FilterAlgebra
