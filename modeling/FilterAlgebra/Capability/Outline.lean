import FilterAlgebra.Capability.Form
import FilterAlgebra.Number.Binary64Text
import FilterAlgebra.Text.Outline
import FilterAlgebra.Text.Printable

/-!
# Outlines of tests

A capability keeps the test of the catalogue or one for a form of its own. A test is
shown by its title and an outline of its parts: how strict it is, and each bound that it
has or leaves open.
-/

set_option autoImplicit false

namespace FilterAlgebra

namespace TestOutline

/-- A part that is set or not. -/
def switch (label : String) (on : Bool) : String × Outline :=
  (label, .word (if on then "true" else "false"))

/-- How strict a test is. -/
def strictness (strict : Bool) : String × Outline :=
  switch "strict" strict

/-- Every test of the catalogue is strict. -/
def strict : String × Outline :=
  strictness true

/-- Parts that are left open. -/
def left (labels : List String) : List (String × Outline) :=
  labels.map fun label => (label, .word "None")

/-- A part that bounds what is accepted. -/
def bound (label : String) (limit : Outline) : String × Outline :=
  (label, .wrapped "Some" limit)

/-- A part that names something. -/
def naming (label name : String) : String × Outline :=
  (label, .word ("\"" ++ name ++ "\""))

/-- A test of one kind with its parts. -/
def ofKind (kind record : String) (parts : List (String × Outline)) : Outline :=
  .wrapped kind (.record record parts)

/-- The bounds that numbers can have. -/
def order : List String :=
  ["le", "lt", "ge", "gt"]

/-- A part that bounds what is accepted, or leaves it open. -/
def limit {α : Type} (label : String) (outline : α → Outline) : Option α → String × Outline
  | some a => bound label (outline a)
  | none => (label, .word "None")

/-- All the bounds of numbers. -/
def limits {α : Type} (outline : α → Outline) (bounds : Bounds α) : List (String × Outline) :=
  [limit "multiple_of" outline bounds.multipleOf, limit "le" outline bounds.atMost,
   limit "lt" outline bounds.below, limit "ge" outline bounds.atLeast, limit "gt" outline bounds.above]

/-- An integer that bounds others. -/
def integerBound (n : Int) : Outline :=
  .wrapped (if -twoTo 63 ≤ n ∧ n < twoTo 63 then "I64" else "Big") (.word (toString n))

/-- A count that bounds others. -/
def countBound (n : Nat) : Outline :=
  .word (toString n)

/-- A text between quotes, with what cannot stand there escaped. -/
def quoted (s : String) : String :=
  let shown := s.toList.map fun c =>
    match c with
    | '"' => "\\\""
    | '\\' => "\\\\"
    | '\n' => "\\n"
    | '\r' => "\\r"
    | '\t' => "\\t"
    | '\x00' => "\\0"
    | c =>
      if isPrintable c then c.toString
      else "\\u\x7b" ++ String.ofList (Nat.toDigits 16 c.toNat) ++ "\x7d"
  "\"" ++ String.join shown ++ "\""

/-- A pattern that is to be found. -/
def patternOutline (p : WrittenPattern) : Outline :=
  .record "Pattern"
    [("pattern", .word (quoted p.text)),
     ("engine", if p.classic then .wrapped "PythonRe"
          (.word ("re.compile(" ++ Inspection.ofString p.text ++ ")"))
       else .wrapped "RustRegex" (.wrapped "Regex" (.word (quoted p.text))))]

/-- What is asked of a text, and what becomes of it. -/
def shape (s : TextShape) : List (String × Outline) :=
  [limit "pattern" patternOutline s.pattern, limit "max_length" countBound s.lengths.most,
     limit "min_length" countBound s.lengths.least,
     switch "strip_whitespace" s.stripped, switch "to_lower" s.lowered, switch "to_upper" s.raised,
     switch "coerce_numbers_to_str" s.ofNumbers]

/-- The test for integers. -/
def integer (strict : Bool) (bounds : Bounds Int) : Outline :=
  if bounds.isBounding then
    ofKind "ConstrainedInt" "ConstrainedIntValidator" (strictness strict :: limits integerBound bounds)
  else ofKind "Int" "IntValidator" [strictness strict]

/-- The test for texts. -/
def text (strict : Bool) (s : TextShape) : Outline :=
  if s.isShaping then ofKind "ConstrainedStr" "StrConstrainedValidator" (strictness strict :: shape s)
  else ofKind "Str" "StrValidator" [strictness strict, switch "coerce_numbers_to_str" s.ofNumbers]

/-- The test for truth values. -/
def truth (strict : Bool) : Outline :=
  ofKind "Bool" "BoolValidator" [strictness strict]

/-- The test for floating-point numbers. -/
def float (strict finite : Bool) (bounds : Bounds Binary64) : Outline :=
  let parts := [strictness strict, switch "allow_inf_nan" (!finite)]
  if bounds.isBounding then
    ofKind "ConstrainedFloat" "ConstrainedFloatValidator" (parts ++ limits (.word ∘ Binary64.text) bounds)
  else ofKind "Float" "FloatValidator" parts

/-- The test for decimals. -/
def decimal (strict finite : Bool) (bounds : Bounds Decimal) (digits : DigitLimits) : Outline :=
  ofKind "Decimal" "DecimalValidator"
    ([strictness strict, switch "allow_inf_nan" (!finite),
      switch "check_digits" (digits.inTotal.isSome || digits.places.isSome)] ++
      limits (.word ∘ Decimal.text) bounds ++
      [limit "max_digits" countBound digits.inTotal, limit "decimal_places" countBound digits.places])

/-- The test whether a value is an object of a class. -/
def instanceOf (shown : String) : Outline :=
  ofKind "IsInstance" "IsInstanceValidator"
    [naming "class_repr" shown, naming "name" ("is-instance[" ++ shown ++ "]")]

end TestOutline

namespace StandardCapability

open TestOutline

/-- The outline of the test of a capability. -/
def testOutline : StandardCapability → Outline
  | integer | hexInteger => TestOutline.integer true {}
  | text _ => TestOutline.text true {}
  | boolean => truth true
  | evenInteger => TestOutline.integer true { multipleOf := some 2 }
  | shortText _ => TestOutline.text true { lengths := { least := some 1, most := some 3 } }
  | double =>
    ofKind "Chain" "ChainValidator"
      [("steps", .row [instanceOf "float", TestOutline.float true true {}]),
       naming "name" "chain[is-instance[float],float]"]
  | decimal => TestOutline.decimal true true {} {}
  | pair =>
    ofKind "Tuple" "TupleValidator"
      ([strict, ("validators", .row [TestOutline.integer true {}, TestOutline.text true {}])] ++
        left ["variadic_item_index", "min_length", "max_length"] ++
        [naming "name" "tuple[int, str]", switch "fail_fast" false])

/-- The title of the test of a capability. -/
def testTitle : StandardCapability → String
  | integer | hexInteger => "int"
  | text _ => "str"
  | boolean => "bool"
  | evenInteger => "constrained-int"
  | shortText _ => "constrained-str"
  | double => "chain[is-instance[float],float]"
  | decimal => "decimal"
  | pair => "tuple[int, str]"

end StandardCapability

namespace Form

open TestOutline

mutual

/-- The outline of the test for a form. -/
def outline : Form → Outline
  | anything => .wrapped "Any" (.word "AnyValidator")
  | absent => .wrapped "None" (.word "NoneValidator")
  | truth strict => TestOutline.truth strict
  | integer strict bounds => TestOutline.integer strict bounds
  | float strict finite bounds => TestOutline.float strict finite bounds
  | decimal strict finite bounds digits => TestOutline.decimal strict finite bounds digits
  | text strict s => TestOutline.text strict s
  | bytes strict lengths =>
    ofKind "Bytes" "BytesValidator"
      (strictness strict :: if lengths.isBounding then
        [limit "max_length" countBound lengths.most, limit "min_length" countBound lengths.least] else [])
  | oneOf expected =>
    ofKind "Literal" "LiteralValidator"
      [naming "expected_repr" (alternatives (expected.map (·.2))), naming "name" (oneOf expected).title]
  | named strict asNumber type shown values =>
    ofKind (if asNumber then "IntEnum" else "PlainEnum") "EnumValidator"
      [naming "expected_repr" (alternatives (values.map (·.2.2))), strictness strict,
       naming "class_repr" shown,
       naming "name" (named strict asNumber type shown values).title]
  | instanceOf _ shown => TestOutline.instanceOf shown
  | subclassOf type shown =>
    ofKind "IsSubclass" "IsSubclassValidator"
      [naming "class_repr" shown, naming "name" (subclassOf type shown).title]
  | callable => .wrapped "Callable" (.word "CallableValidator")
  | optional form =>
    ofKind "Nullable" "NullableValidator" [("validator", form.outline), naming "name" (optional form).title]
  | chain steps =>
    ofKind "Chain" "ChainValidator" [("steps", .row (outlines steps)), naming "name" (chain steps).title]
  | choice best choices =>
    ofKind "Union" "UnionValidator"
      [("mode", .word (if best then "Smart" else "LeftToRight")), ("choices", .row (outlines choices)),
       naming "name" (choice best choices).title]
  | list strict item lengths =>
    ofKind "List" "ListValidator"
      [strictness strict, bound "item_validator" item.outline, limit "min_length" countBound lengths.least,
       limit "max_length" countBound lengths.most, naming "name" (list strict item lengths).title,
       switch "fail_fast" false]
  | tuple strict items repeated lengths =>
    ofKind "Tuple" "TupleValidator"
      [strictness strict, ("validators", .row (outlines items)),
       limit "variadic_item_index" countBound repeated, limit "min_length" countBound lengths.least,
       limit "max_length" countBound lengths.most,
       naming "name" (tuple strict items repeated lengths).title, switch "fail_fast" false]
  | mapping strict key value lengths =>
    ofKind "Dict" "DictValidator"
      [strictness strict, ("key_validator", key.outline), ("value_validator", value.outline),
       limit "min_length" countBound lengths.least, limit "max_length" countBound lengths.most,
       naming "name" (mapping strict key value lengths).title]
  | set frozen strict item lengths =>
    let kind := if frozen then "FrozenSet" else "Set"
    ofKind kind (kind ++ "Validator")
      [strictness strict, ("item_validator", item.outline), limit "min_length" countBound lengths.least,
       limit "max_length" countBound lengths.most, naming "name" (set frozen strict item lengths).title,
       switch "fail_fast" false]
  | record strict fields forms others =>
    let extra := match others with
      | .dropped => "Ignore"
      | .kept => "Allow"
      | .forbidden => "Forbid"
    ofKind "TypedDict" "TypedDictValidator"
      [("fields", .row ((fields.zip (outlines forms)).map fun (field, outline) =>
        .record "TypedDictField" [naming "name" field.name, switch "required" field.required,
          ("validator", outline)])),
       ("extra_behavior", .word extra), strictness strict]
  | byTag name tags forms =>
    ofKind "TaggedUnion" "TaggedUnionValidator"
      [("choices", .row (outlines forms)), naming "tags_repr" (", ".intercalate (tags.map (·.2))),
       naming "discriminator_repr" ("'" ++ name ++ "'"), naming "name" (byTag name tags forms).title]
  | worded issue form =>
    ofKind "CustomError" "CustomErrorValidator"
      [("validator", form.outline), naming "name" (worded issue form).title]
  | orElse default onIssues form =>
    ofKind "WithDefault" "WithDefaultValidator"
      [("validator", form.outline), naming "name" (orElse default onIssues form).title]
  | withFunction place function shown form =>
    let name := naming "name" (withFunction place function shown form).title
    match place with
    | .alone => ofKind "FunctionPlain" "FunctionPlainValidator" [name]
    | .before => ofKind "FunctionBefore" "FunctionBeforeValidator" [("validator", form.outline), name]
    | .after => ofKind "FunctionAfter" "FunctionAfterValidator" [("validator", form.outline), name]
  | titled _ form => form.outline

/-- The outlines of the tests for some forms. -/
def outlines : List Form → List Outline
  | [] => []
  | form :: rest => form.outline :: outlines rest

end

end Form

/-- The test that a capability keeps. -/
inductive CapabilityTest where
  | ofCatalogue (c : StandardCapability)
  | ofForm (form : Form)

/-- A test as it is shown. -/
def CapabilityTest.shown (t : CapabilityTest) : String :=
  let (title, outline) := match t with
    | ofCatalogue c => (c.testTitle, c.testOutline)
    | ofForm form => (form.title, form.outline)
  "SchemaValidator(title=\"" ++ title ++ "\", validator=" ++ outline.text 0 ++
    ", definitions=[], cache_strings=True)"

end FilterAlgebra
