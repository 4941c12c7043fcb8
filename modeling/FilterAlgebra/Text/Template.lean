import FilterAlgebra.Text.FieldFormat

/-!
# Templates

A template is a text in which fields stand between braces; a brace of the text itself
is written twice. A field says which operand is meant, by its number or, for the next
one, not at all; then, after dots and within brackets, which part of it; then, after
an exclamation mark, in which form it is shown; and, after a colon, how. Templates
are read piece by piece, because a field takes effect before the rest is read. The
format of a field may hold fields in turn, but theirs may not.
-/

set_option autoImplicit false

namespace FilterAlgebra

/-- One step from an operand to a part of it. -/
inductive TemplatePart where
  | attributeNamed (name : String)
  | itemAt (i : Nat)
  | itemNamed (key : String)

/-- A field of a template as it is written. -/
structure TemplateField where
  place : List Char
  conversion : Option Char
  format : List Char

namespace Template

/-- The fault of a template that is not well formed. -/
def malformed (complaint : String) : Fault :=
  .badArguments .value complaint

/-- A brace between apostrophes. -/
def brace (c : Char) : String :=
  String.ofList ['\'', c, '\'']

/-- The character that opens a field. -/
def opening : Char := '\x7b'

/-- The character that closes a field. -/
def closing : Char := '\x7d'

/-- Whether a character opens or closes a field. -/
def isBrace (c : Char) : Bool :=
  c = opening || c = closing

/-- Reads text up to a field: the text, whether a field follows, and the rest. -/
def readText : List Char → Except Fault (List Char × Bool × List Char)
  | [] => .ok ([], false, [])
  | [c] =>
    if c = opening || c = closing then
      .error (malformed ("Single " ++ brace c ++ " encountered in format string"))
    else .ok ([c], false, [])
  | c :: d :: rest =>
    if c = opening || c = closing then
      if c = d then do
        let (text, field, rest) ← readText rest
        return (c :: text, field, rest)
      else if c = closing then
        .error (malformed ("Single " ++ brace c ++ " encountered in format string"))
      else .ok ([], true, d :: rest)
    else do
      let (text, field, rest) ← readText (d :: rest)
      return (c :: text, field, rest)

/-- Splits the place of a field off. What stands within brackets belongs to it. -/
def readPlace : Bool → List Char → Except Fault (List Char × Option Char × List Char)
  | _, [] => .ok ([], none, [])
  | true, c :: rest => do
    let (place, stop, rest) ← readPlace (c ≠ ']') rest
    return (c :: place, stop, rest)
  | false, c :: rest =>
    if c = opening then .error (malformed ("unexpected " ++ brace c ++ " in field name"))
    else if c = closing || c = ':' || c = '!' then .ok ([], some c, rest)
    else do
      let (place, stop, rest) ← readPlace (c = '[') rest
      return (c :: place, stop, rest)

/-- Splits the format of a field off, up to the brace that closes the field. -/
def readFormat : Nat → List Char → Except Fault (List Char × List Char)
  | _, [] => .error (malformed ("unmatched " ++ brace opening ++ " in format spec"))
  | level, c :: rest =>
    if c = closing then
      match level with
      | 0 => .ok ([], rest)
      | level + 1 => do
        let (format, rest) ← readFormat level rest
        return (c :: format, rest)
    else do
      let (format, rest) ← readFormat (if c = opening then level + 1 else level) rest
      return (c :: format, rest)

/-- Reads what follows the exclamation mark of a field. -/
def readConversion (place : List Char) : List Char → Except Fault (TemplateField × List Char)
  | [] => .error (malformed "end of string while looking for conversion specifier")
  | [c] => do
    let (format, rest) ← readFormat 0 []
    return (⟨place, some c, format⟩, rest)
  | c :: d :: rest =>
    if d = closing then .ok (⟨place, some c, []⟩, rest)
    else if d = ':' then do
      let (format, rest) ← readFormat 0 rest
      return (⟨place, some c, format⟩, rest)
    else .error (malformed "expected ':' after conversion specifier")

/-- Reads a field after its opening brace. -/
def readField (chars : List Char) : Except Fault (TemplateField × List Char) := do
  let (place, stop, rest) ← readPlace false chars
  match stop with
  | none => .error (malformed ("expected " ++ brace closing ++ " before end of string"))
  | some c =>
    if c = closing then return (⟨place, none, []⟩, rest)
    else if c = ':' then
      let (format, rest) ← readFormat 0 rest
      return (⟨place, none, format⟩, rest)
    else readConversion place rest

/-- The number that some characters stand for, if they are digits. -/
def number? (chars : List Char) : Except Fault (Option Nat) :=
  let digits := chars.map plainNumeralChar
  if digits.isEmpty || !digits.all Char.isDigit then .ok none
  else
    let n := Numeral.natOfDigits digits
    if FieldFormat.maxNumber < n then .error FieldFormat.tooManyDigits else .ok (some n)

/-- A part that is named within brackets: a number if it looks like one, and otherwise a key. -/
def bracketed (chars : List Char) : Except Fault TemplatePart := do
  match ← number? chars with
  | some n => return .itemAt n
  | none => return .itemNamed (String.ofList chars)

/-- Refuses a part without a name. -/
def requireName (chars : List Char) : Except Fault Unit :=
  if chars.isEmpty then .error (malformed "Empty attribute in format string") else .ok ()

/-- Reads the next part of a place, and what follows it. -/
def readPart : List Char → Except Fault (Option (TemplatePart × List Char))
  | [] => .ok none
  | c :: rest => do
    if c = '.' then
      let name := rest.takeWhile fun c => c ≠ '.' && c ≠ '['
      requireName name
      return some (.attributeNamed (String.ofList name), rest.drop name.length)
    else if c = '[' then
      let key := rest.takeWhile (· ≠ ']')
      if rest.length = key.length then .error (malformed "Missing ']' in format string")
      else
        requireName key
        return some (← bracketed key, rest.drop (key.length + 1))
    else .error (malformed "Only '.' or '[' may follow ']' in format field specifier")

/-- The first name of a place, and the parts that follow it. -/
def splitPlace (place : List Char) : List Char × List Char :=
  let first := place.takeWhile fun c => c ≠ '.' && c ≠ '['
  (first, place.drop first.length)

/-- How the fields of a template number the operands: by their numbers, or one after the other. -/
inductive Numbering where
  | undecided
  | manual
  | automatic (next : Nat)

/-- The number of the operand that a name of a field means, and how numbering goes on. -/
def operandNumber (numbering : Numbering) (first : List Char) : Except Fault (Nat × Numbering) := do
  match ← number? first, first, numbering with
  | some _, _, .automatic _ =>
    .error (malformed "cannot switch from automatic field numbering to manual field specification")
  | some n, _, _ => return (n, .manual)
  | none, [], .manual =>
    .error (malformed "cannot switch from manual field specification to automatic field numbering")
  | none, [], .automatic next => return (next, .automatic (next + 1))
  | none, [], .undecided => return (0, .automatic 1)
  | none, name, _ => .error (.missingKey (Inspection.ofString (String.ofList name)))

end Template

end FilterAlgebra
