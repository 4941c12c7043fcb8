import FilterAlgebra.Capability.Form
import FilterAlgebra.Hierarchy
import FilterAlgebra.Text.Pattern.Reading
import FilterAlgebra.Value.Conversion

/-!
# Reading forms

A form is given as a mapping of names: its kind, the bounds that it sets, and the forms
of its parts. What cannot be read as a form is reported with the kind of the form in
which it stands, from the inside outwards.
-/

set_option autoImplicit false

namespace FilterAlgebra

/-- Why a value is not read as a form. -/
inductive FormFault where
  | notMapping (className : String)
  /-- An entry that a form cannot do without is missing. -/
  | missing (name : String)
  /-- Something in an entry is of the wrong type or out of range. -/
  | unfit (kind complaint : String)
  | unknown (kind : String)
  | malformed (complaint : String)
  /-- A form of one kind cannot be read because of something in it. -/
  | within (kind : String) (inner : FormFault)
  /-- A field of a record cannot be read. -/
  | ofField (name : String) (inner : FormFault)

namespace FormFault

/-- The word for the sort of a fault. -/
def sort : FormFault → String
  | notMapping _ => "TypeError"
  | missing _ => "KeyError"
  | unfit kind _ => kind
  | unknown _ | malformed _ | within .. | ofField .. => "SchemaError"

/-- A fault in words. -/
def message : FormFault → String
  | notMapping className => "'" ++ className ++ "' object cannot be converted to 'PyDict'"
  | missing name => Inspection.ofString name
  | unfit _ complaint | malformed complaint => complaint
  | unknown kind => "Unknown schema type: \"" ++ kind ++ "\""
  | within kind inner =>
    "Error building \"" ++ kind ++ "\" validator:\n  " ++ inner.sort ++ ": " ++ inner.message
  | ofField name inner => "Field \"" ++ name ++ "\":\n  " ++ inner.sort ++ ": " ++ inner.message

/-- The fault of a class that declares what is no form. -/
def fault (f : FormFault) : Fault :=
  let kind := match f with
    | notMapping _ => FaultKind.type
    | missing _ => .key
    | unfit kind _ => if kind = "OverflowError" then .overflow else .type
    | _ => .form
  .badArguments kind f.message

end FormFault

namespace Form

/-- What was read, or why nothing could be. -/
abbrev Reading := Except FormFault

/-- The entries of a form. -/
abbrev Entries := Table Value

/-- The entry of a name, if there is one. -/
def entry? (entries : Entries) (name : String) : Option Value :=
  match entries.get? name with
  | some .none => none
  | found => found

/-- What an entry is read as, if there is one. -/
def readEntry? {α : Type} (entries : Entries) (name : String) (read : Value → Reading α) :
    Reading (Option α) :=
  match entry? entries name with
  | some v => some <$> read v
  | none => .ok none

/-- An entry that a form cannot do without. -/
def needed (entries : Entries) (name : String) : Reading Value :=
  match entries.get? name with
  | some v => .ok v
  | none => .error (.missing name)

/-- The fault of an entry of the wrong type. -/
def mistyped (complaint : String) : FormFault :=
  .unfit "TypeError" complaint

/-- An entry that is a truth value. -/
def readSwitch (v : Value) : Reading Bool :=
  match v with
  | .bool b => .ok b
  | v => .error (mistyped ("'" ++ v.className ++ "' object cannot be converted to 'PyBool'"))

/-- Whether an entry is set, or else what holds without it. -/
def switch (entries : Entries) (name : String) (default : Bool) : Reading Bool := do
  return (← readEntry? entries name readSwitch).getD default

/-- An entry that is an integer. -/
def readInteger (v : Value) : Reading Int :=
  match v.held.index? with
  | some n => .ok n
  | none => .error (mistyped ("Expected int, got <class '" ++ v.typeName ++ "'>"))

/-- An entry that is a floating-point number. -/
def readFloat (v : Value) : Reading Binary64 :=
  match v.text?, v.asFloat with
  | none, .ok x => .ok x
  | _, _ => .error (mistyped ("must be real number, not " ++ v.typeName))

/-- An entry that is a decimal. -/
def readDecimal (v : Value) : Reading Decimal :=
  match v.decimal?, v.held.index?, v.text?.bind Decimal.ofString?, v.float? with
  | some d, _, _, _ | none, none, some d, _ => .ok d
  | none, some n, _, _ => .ok (.finite (n < 0) n.natAbs 0)
  | none, none, none, some x => if let some d := Decimal.ofString? x.text then .ok d else unread
  | none, none, none, none => unread
where
  /-- Nothing else is a decimal. -/
  unread : Reading Decimal :=
    .error (mistyped ("conversion from " ++ v.typeName ++ " to Decimal is not supported"))

/-- An entry that is a count. -/
def readCount (v : Value) : Reading Nat :=
  match v.held.index? with
  | some n =>
    if n < 0 then .error (.unfit "OverflowError" "can't convert negative int to unsigned") else .ok n.toNat
  | none => .error (mistyped ("'" ++ v.className ++ "' object cannot be interpreted as an integer"))

/-- An entry that is a text. -/
def readText (v : Value) : Reading String :=
  match v.text? with
  | some s => .ok s
  | none => .error (mistyped ("'" ++ v.className ++ "' object cannot be converted to 'PyString'"))

/-- The bounds that a form sets. -/
def readBounds {α : Type} (read : Value → Reading α) (entries : Entries) : Reading (Bounds α) := do
  let multipleOf ← readEntry? entries "multiple_of" read
  let atMost ← readEntry? entries "le" read
  let below ← readEntry? entries "lt" read
  let atLeast ← readEntry? entries "ge" read
  let above ← readEntry? entries "gt" read
  return { multipleOf, atMost, below, atLeast, above }

/-- The bounds on lengths that a form sets. -/
def readLengths (entries : Entries) : Reading Lengths := do
  let least ← readEntry? entries "min_length" readCount
  let most ← readEntry? entries "max_length" readCount
  return { least, most }

/-- An entry that is a pattern. -/
def readPattern (classic : Bool) (v : Value) : Reading WrittenPattern :=
  match v.text? with
  | none =>
    .error (.malformed ("Invalid pattern, must be str or re.Pattern: " ++ wordsOf v))
  | some written =>
    match Pattern.ofString classic written with
    | .ok pattern => .ok ⟨written, classic, pattern⟩
    | .error f => .error (.malformed (f.shownIn written))

/-- What a form asks of texts. -/
def readShape (entries : Entries) : Reading TextShape := do
  let engine ← readEntry? entries "regex_engine" readText
  let pattern ← readEntry? entries "pattern" (readPattern (engine = some "python-re"))
  let lengths ← readLengths entries
  let stripped ← switch entries "strip_whitespace" false
  let lowered ← switch entries "to_lower" false
  let raised ← switch entries "to_upper" false
  let ofNumbers ← switch entries "coerce_numbers_to_str" false
  return { pattern, lengths, stripped, lowered, raised, ofNumbers }

/-- The items of an entry that is a list. -/
def readItems (v : Value) : Reading (List Value) :=
  match v.held with
  | .list items => .ok items
  | _ => .error (mistyped ("'" ++ v.className ++ "' object cannot be converted to 'PyList'"))

/-- The values that a form allows, each in words. -/
def readExpected (v : Value) : Reading Form := do
  let items ← readItems v
  if items.isEmpty then .error (.malformed "`expected` should have length > 0")
  else
    return oneOf (items.map fun item => (item, match item.inspect with
      | .ok shown => shown
      | .error _ => ""))

/-- The class of an entry, and how it is shown. -/
def readClass (entries : Entries) (role : String) : Reading (SemanticType × String) := do
  let given ← readEntry? entries "cls_repr" readText
  match ← needed entries "cls" with
  | .type t =>
    let name := match t.name with
      | .ok name => name
      | .error _ => ""
    return (t, given.getD name)
  | _ => .error (.malformed ("'cls' must be valid as the first argument to '" ++ role ++ "'"))

/-- A named value, what it stands for, and the words for that. -/
def readNamed (v : Value) : Reading (Value × Value × String) :=
  match v.naming with
  | some (_, content) =>
    .ok (v, content, match content.inspect with
      | .ok shown => shown
      | .error _ => "")
  | none => .error (.unfit "AttributeError" ("'" ++ v.className ++ "' object has no attribute 'value'"))

/-- The entries of a value that is to be a form. -/
def entriesOf (v : Value) : Reading Entries :=
  match v.held with
  | .dict keys values =>
    .ok ((keys.zip values).filterMap fun (key, value) => key.text?.map fun name => (name, value))
  | _ => .error (.notMapping v.className)

/-- The entries of an entry that is a mapping. -/
def readMapping (v : Value) : Reading (List (Value × Value)) :=
  match v.held with
  | .dict keys values => .ok (keys.zip values)
  | _ => .error (mistyped ("'" ++ v.className ++ "' object cannot be converted to 'PyDict'"))

/-- The issue that a form puts in the place of others, if it has one. -/
def readIssue? (entries : Entries) : Reading (Option Expectation) := do
  match ← readEntry? entries "custom_error_type" readText with
  | none => return none
  | some code =>
    match Expectation.plain.find? (·.code = code) with
    | some known =>
      if (entries.get? "custom_error_message").isSome then
        .error (.malformed ("custom_error_message should not be provided if 'custom_error_type' matches " ++
          "a known error"))
      else return some known
    | none =>
      let message ← readText (← needed entries "custom_error_message")
      let context ← readEntry? entries "custom_error_context" readMapping
      let message := (context.getD []).foldl (fun message (key, v) =>
        message.replace ("\x7b" ++ wordsOf key ++ "\x7d") (wordsOf v)) message
      return some (.worded code message)

/-- A form, or one of several that goes by a title of its own. -/
def readChoice (part : Value → Reading Form) (v : Value) : Reading Form := do
  match v.held with
  | .tuple [form, title] => return titled (wordsOf title) (← part form)
  | _ => part v

/-- A field of a record, and its form. -/
def readField (part : Value → Reading Form) (total : Bool) (key field : Value) :
    Reading (RecordField × Form) := do
  let name ← readText key
  let entries := (← readMapping field).filterMap fun (key, v) => key.text?.map fun name => (name, v)
  let form ← (part (← needed entries "schema")).mapError (.ofField name)
  let required ← switch entries "required" total
  match required, form with
  | true, orElse (some _) _ _ =>
    .error (.malformed ("Field '" ++ name ++ "': a required field cannot have a default value"))
  | _, _ => return (⟨name, required⟩, form)

/-- What becomes of names that a record does not know. -/
def readOthers (entries : Entries) : Reading OtherNames := do
  match ← readEntry? entries "extra_behavior" readText with
  | none | some "ignore" => return .dropped
  | some "allow" => return .kept
  | some "forbid" => return .forbidden
  | some word => .error (.malformed ("Invalid extra_behavior: `" ++ word ++ "`"))

/-- The function of a form, and how it is shown. -/
def readFunction (entries : Entries) : Reading (Value × String) := do
  let parts := (← readMapping (← needed entries "function")).filterMap fun (key, v) =>
    key.text?.map fun name => (name, v)
  let function ← needed parts "function"
  let shown := match function with
    | .type t => (match t.name with
      | .ok name => name
      | .error _ => "")
    | v => v.className
  return (function, shown)

/-- A form of one kind, given how to read the forms of its parts. -/
def readKind (part : Value → Reading Form) (kind : String) (entries : Entries) : Reading Form := do
  let strict ← switch entries "strict" false
  match kind with
  | "any" => return anything
  | "none" => return absent
  | "bool" => return truth strict
  | "int" => return integer strict (← readBounds readInteger entries)
  | "float" =>
    return float strict (!(← switch entries "allow_inf_nan" true)) (← readBounds readFloat entries)
  | "decimal" =>
    let finite := !(← switch entries "allow_inf_nan" false)
    let inTotal ← readEntry? entries "max_digits" readCount
    let places ← readEntry? entries "decimal_places" readCount
    return decimal strict finite (← readBounds readDecimal entries) { inTotal, places }
  | "str" => return text strict (← readShape entries)
  | "bytes" => return bytes strict (← readLengths entries)
  | "literal" => readExpected (← needed entries "expected")
  | "enum" =>
    match ← (← readItems (← needed entries "members")).mapM readNamed with
    | [] => .error (.malformed "`members` should have length > 0")
    | values =>
      let (type, shown) ← readClass entries "isinstance"
      let sort ← readEntry? entries "sub_type" readText
      return named strict (sort = some "int") type shown values
  | "is-instance" =>
    let (type, shown) ← readClass entries "isinstance"
    return instanceOf type shown
  | "is-subclass" =>
    let (type, shown) ← readClass entries "issubclass"
    return subclassOf type shown
  | "callable" => return callable
  | "nullable" => return optional (← part (← needed entries "schema"))
  | "default" =>
    let default := entries.get? "default"
    let onIssues := (← readEntry? entries "on_error" readText) = some "default"
    if onIssues && default.isNone then
      .error (.malformed "'on_error = default' requires a `default` or `default_factory`")
    else return orElse default onIssues (← part (← needed entries "schema"))
  | "lax-or-strict" =>
    let lax ← part (← needed entries "lax_schema")
    let hard ← part (← needed entries "strict_schema")
    return titled ("lax-or-strict[lax=" ++ lax.title ++ ",strict=" ++ hard.title ++ "]")
      (if strict then hard else lax)
  | "json-or-python" =>
    let json ← part (← needed entries "json_schema")
    let other ← part (← needed entries "python_schema")
    return titled ("json-or-python[json=" ++ json.title ++ ",python=" ++ other.title ++ "]") other
  | "custom-error" =>
    let form ← part (← needed entries "schema")
    match ← readIssue? entries with
    | some issue => return worded issue form
    | none => .error (.missing "custom_error_type")
  | "function-before" | "function-after" | "function-plain" =>
    let (function, shown) ← readFunction entries
    if kind = "function-plain" then return withFunction .alone function shown anything
    else
      let form ← part (← needed entries "schema")
      return withFunction (if kind = "function-before" then .before else .after) function shown form
  | "tagged-union" =>
    let name ← readText (← needed entries "discriminator")
    let choices ← readMapping (← needed entries "choices")
    let forms ← choices.mapM fun (_, form) => part form
    let form := byTag name (choices.map fun (tag, _) => (tag, match tag.inspect with
      | .ok shown => shown
      | .error _ => "")) forms
    return match ← readIssue? entries with
      | some issue => titled form.title (worded issue form)
      | none => form
  | "typed-dict" =>
    let total ← switch entries "total" true
    let others ← readOthers entries
    let fields ← readMapping (← needed entries "fields")
    let read ← fields.mapM fun (key, field) => readField part total key field
    return record strict (read.map (·.1)) (read.map (·.2)) others
  | "set" | "frozenset" =>
    let item ← readEntry? entries "items_schema" part
    return set (kind = "frozenset") strict (item.getD anything) (← readLengths entries)
  | "chain" =>
    match ← (← readItems (← needed entries "steps")).mapM part with
    | [] => .error (.malformed "One or more steps are required for a chain validator")
    | [step] => return step
    | steps => return chain steps
  | "union" =>
    let mode ← readEntry? entries "mode" readText
    let collapsed ← switch entries "auto_collapse" true
    match ← (← readItems (← needed entries "choices")).mapM (readChoice part), collapsed with
    | [], _ => .error (.malformed "One or more union choices required")
    | [titled _ form], true | [form], true => return form
    | choices, _ =>
      let form := choice (mode ≠ some "left_to_right") choices
      return match ← readIssue? entries with
        | some issue => titled form.title (worded issue form)
        | none => form
  | "list" =>
    let item ← readEntry? entries "items_schema" part
    return list strict (item.getD anything) (← readLengths entries)
  | "tuple" =>
    let items ← (← readItems (← needed entries "items_schema")).mapM part
    let repeated ← readEntry? entries "variadic_item_index" readCount
    return tuple strict items repeated (← readLengths entries)
  | "dict" =>
    let key ← readEntry? entries "keys_schema" part
    let value ← readEntry? entries "values_schema" part
    return mapping strict (key.getD anything) (value.getD anything) (← readLengths entries)
  | kind => .error (.unknown kind)

/-- The greatest depth to which the parts of a form are read. -/
def depthLimit : Nat := 1000

/-- The kinds of forms. -/
def kinds : List String :=
  ["any", "none", "bool", "int", "float", "decimal", "str", "bytes", "literal", "enum", "is-instance",
   "is-subclass", "callable", "nullable", "default", "lax-or-strict", "json-or-python", "chain", "union",
   "list", "tuple", "dict", "custom-error", "function-before", "function-after", "function-plain",
   "tagged-union", "typed-dict", "set", "frozenset"]

/-- Reads a value as a form, with its parts to the given depth. -/
def readWithin : Nat → Value → Reading Form
  | 0, _ => .error (.malformed "")
  | depth + 1, v => do
    let entries ← entriesOf v
    let kind ← readText (← needed entries "type")
    if kinds.contains kind then (readKind (readWithin depth) kind entries).mapError (.within kind)
    else .error (.unknown kind)

/-- Reads a value as a form. -/
def ofValue (v : Value) : Except Fault Form :=
  (readWithin depthLimit v).mapError FormFault.fault

end Form

end FilterAlgebra
