import FilterAlgebra.Session.Construction
import FilterAlgebra.Text.Template
import FilterAlgebra.Value.Formatting

/-!
# Substitution

Objects are substituted for the fields of a template. What a field shows is a text:
the object as it appears in texts, or one of its inspection forms.
-/

set_option autoImplicit false

namespace FilterAlgebra

/-- The inspection form of a value, with everything outside of ASCII escaped. -/
def Inspection.asciiOnly (shown : String) : String :=
  String.ofList (shown.toList.flatMap fun c => if c.toNat < 0x80 then [c] else numericEscape c.toNat)

namespace SessionM

section Calls

variable (call : Caller)

/-- The item of an object under a key. -/
def itemUnder (key : Ref) (entries : List (Ref × Ref)) : SessionM Ref := do
  let s ← get
  match ← (s.find? key entries : SessionM (Option Ref)) with
  | some item => return item
  | none => do fault (.missingKey (← ((s.value key).inspect : SessionM String)))

/-- A class of containers with a key, which says what its items are. -/
def containerOf (type : Ref) (shownKey : String) : SessionM Ref := do
  newObject (.containerOf type ((← typeOf type).fixedName ++ "[" ++ shownKey ++ "]")) []

/-- What an object that has no items gives for a key: a class of containers is told by it what its
items are, but only once. -/
def withoutItems (r : Ref) (shownKey : String) (missing : Fault) : SessionM Ref := do
  let s ← get
  match s.content r with
  | .containerOf _ shown => fault (.badArguments .type (shown ++ " is not a generic class"))
  | _ =>
    if [SemanticType.list, .tuple, .dict].contains (s.typeOf r) then containerOf r shownKey
    else fault missing

/-- The named value of a class under a name. -/
def namedValueUnder (id : ClassId) (shownKey : String) (name? : Option String) : SessionM Ref := do
  let s ← get
  require (.missingKey shownKey) (name?.bind (namedValues s id).get?)

/-- What a class gives for a key: one of its named values, or what is told of its items. -/
def itemOfClass (r : Ref) (id : ClassId) (shownKey : String) (name? : Option String) (missing : Fault) :
    SessionM Ref := do
  if (← get).classOfClass id = .enumerationClasses then namedValueUnder id shownKey name?
  else withoutItems r shownKey missing

/-- A part of an object. -/
def partOf (r : Ref) (part : TemplatePart) : SessionM Ref := do
  let s ← get
  match part, s.content r with
  | .attributeNamed name, _ => attributeOf r name
  | .itemAt i, .list items => require (.indexOutOfRange "list ") items[i]?
  | .itemAt i, .tuple items => require (.indexOutOfRange "tuple ") items[i]?
  | .itemAt i, .atom v => do newAtom (← (v.item i : SessionM Value))
  | .itemAt i, .type id => itemOfClass r id (toString i) none (.notSubscriptable (s.holder r))
  | .itemAt i, _ =>
    match ← entriesOf? r with
    | some entries => do itemUnder (← newAtom (.int i)) entries
    | none => withoutItems r (toString i) (.notSubscriptable (s.holder r))
  | .itemNamed key, .type id =>
    itemOfClass r id (Inspection.ofString key) (some key) (s.indexFault r "str")
  | .itemNamed key, _ =>
    match ← entriesOf? r with
    | some entries => do itemUnder (← newText key) entries
    | none => withoutItems r (Inspection.ofString key) (s.indexFault r "str")

/-- The fault that there is no form of the given letter. -/
def unknownConversion (c : Char) : Fault :=
  Template.malformed ("Unknown conversion specifier " ++
    if 32 < c.toNat && c.toNat < 127 then c.toString else "\\x" ++ String.ofList (Nat.toDigits 16 c.toNat))

/-- An object in the form that a letter stands for. -/
def converted (r : Ref) : Option Char → SessionM Ref
  | none => return r
  | some 'r' => do newText (← ((← valueOf r).inspect : SessionM String))
  | some 's' => textObjectOf call r
  | some 'a' => do newText (Inspection.asciiOnly (← ((← valueOf r).inspect : SessionM String)))
  | some c => fault (unknownConversion c)

/-- An object shown in a format. In the empty one it is shown as it is in texts. -/
def formatted (r : Ref) (format : List Char) : SessionM String := do
  if format.isEmpty then displayOf call r
  else
    let v ← valueOf r
    (v.inFormat ((← get).typeName r) format : SessionM String)

/-- The object for another one as it is shown in a format: a plain text is its own as long as nothing of it
changes. -/
def shownIn (r : Ref) (format : List Char) : SessionM Ref := do
  if format.isEmpty then textObjectOf call r
  else
    let shown ← formatted call r format
    let s ← get
    match s.content r, s.below? r with
    | .atom (.text (.plain t)), none => if t = shown then return r else newText shown
    | _, _ => newText shown

/-- The part of an object that the rest of a place leads to, in at most the
given number of steps. -/
def partAlong : Nat → Ref → List Char → SessionM Ref
  | 0, r, _ => return r
  | steps + 1, r, place => do
    match ← (Template.readPart place : SessionM _) with
    | none => return r
    | some (part, rest) => do partAlong steps (← partOf r part) rest

/-- The operand that a field means, in the form that it asks for, and how numbering goes on. -/
def fieldOperand (operands : List Ref) (numbering : Template.Numbering) (field : TemplateField) :
    SessionM (Ref × Template.Numbering) := do
  let (first, parts) := Template.splitPlace field.place
  let (n, numbering) ← (Template.operandNumber numbering first : SessionM _)
  let operand ← require (.badArguments .index
    ("Replacement index " ++ toString n ++ " out of range for positional args tuple")) operands[n]?
  let part ← partAlong (parts.length + 1) operand parts
  return (← converted call part field.conversion, numbering)

/-- Substitutes objects for the fields of a template, in at most the given
number of steps. Fields may hold fields down to the given level. -/
def substituteWithin (operands : List Ref) :
    Nat → Nat → Template.Numbering → List Char → SessionM (String × Template.Numbering)
  | 0, _, numbering, _ => return ("", numbering)
  | _, 0, _, _ => fault (Template.malformed "Max string recursion exceeded")
  | steps + 1, level + 1, numbering, template => do
    let (text, fieldFollows, rest) ← (Template.readText template : SessionM _)
    if fieldFollows then
      let (field, rest) ← (Template.readField rest : SessionM _)
      let (operand, numbering) ← fieldOperand call operands numbering field
      let (format, numbering) ←
        if field.format.contains Template.opening then
          substituteWithin operands steps level numbering field.format
        else pure (String.ofList field.format, numbering)
      let shown ← formatted call operand format.toList
      let (others, numbering) ← substituteWithin operands steps (level + 1) numbering rest
      return (String.ofList text ++ shown ++ others, numbering)
    else return (String.ofList text, numbering)

/-- The field that makes up all of a template, if it holds no fields itself. -/
def onlyField? (template : List Char) : SessionM (Option TemplateField) := do
  let (text, fieldFollows, rest) ← (Template.readText template : SessionM _)
  if text.isEmpty && fieldFollows then
    let (field, rest) ← (Template.readField rest : SessionM _)
    return if rest.isEmpty && !field.format.contains Template.opening then some field else none
  else return none

/-- Substitutes objects for the fields of a template. A template without fields is its own, and one that is
nothing but a field is what the field shows. -/
def substitute (template : Ref) (operands : List Ref) : SessionM Ref := do
  let chars := (← textOf template).toList
  if !chars.isEmpty && !chars.any Template.isBrace then return template
  else
    match ← onlyField? chars with
    | some field =>
      let (operand, _) ← fieldOperand call operands .undecided field
      shownIn call operand field.format
    | none => newText (← substituteWithin call operands (chars.length + 1) 2 .undecided chars).1

end Calls

end SessionM

end FilterAlgebra
