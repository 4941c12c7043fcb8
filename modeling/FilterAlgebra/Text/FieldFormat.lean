import FilterAlgebra.Fault
import FilterAlgebra.Text.Digits
import FilterAlgebra.Text.Layout

/-!
# Formats of fields

The format of a field says how a text or a number is shown: how it is aligned and
with what the gap is filled, which signs are shown, how wide it is, how its digits
are grouped, how precise it is and in which presentation it is written. Everything
may be left out, but what is there stands in this order:

  fill and alignment, sign, `z`, `#`, `0`, width, separator, point and precision, letter

A format is read from left to right against the standard format of the kind of what is
shown. Most of what makes no sense for a kind is only refused afterwards.
-/

set_option autoImplicit false

namespace FilterAlgebra

/-- Which signs of numbers are shown. -/
inductive SignRule where
  /-- Only that of negative numbers. -/
  | minus
  | plus
  /-- A blank in the place of the sign of a number that is not negative. -/
  | blank
  deriving DecidableEq

namespace SignRule

/-- The rule that a character stands for. -/
def ofChar? : Char → Option SignRule
  | '-' => some minus
  | '+' => some plus
  | ' ' => some blank
  | _ => none

/-- The sign of a number, if it is shown. -/
def chars (rule : Option SignRule) (negative : Bool) : List Char :=
  if negative then ['-']
  else
    match rule with
    | some plus => ['+']
    | some blank => [' ']
    | _ => []

end SignRule

/-- How a text or a number is shown in a field. -/
structure FieldFormat where
  fill : Char := ' '
  alignment : Alignment
  sign : Option SignRule := none
  /-- Whether a number that shows as zero has no sign. -/
  plainZero : Bool := false
  /-- Whether the mark of the base and the decimal point are always shown. -/
  alternate : Bool := false
  width : Nat := 0
  separator : Option Char := none
  precision : Option Nat := none
  presentation : Option Char := none

namespace FieldFormat

/-- The fault of a format. -/
def malformed (complaint : String) : Fault :=
  .badArguments .value complaint

/-- The greatest number that a template or a format may ask for. -/
def maxNumber : Nat := 9223372036854775807

/-- The fault that a number is greater than that. -/
def tooManyDigits : Fault :=
  malformed "Too many decimal digits in format string"

/-- Reads one of some characters, if it comes next. -/
def readOption {α : Type} (meaning : Char → Option α) : List Char → Option α × List Char
  | [] => (none, [])
  | c :: rest =>
    match meaning c with
    | some a => (some a, rest)
    | none => (none, c :: rest)

/-- Reads a character, if it comes next. -/
def readFlag (flag : Char) (chars : List Char) : Bool × List Char :=
  let (found, rest) := readOption (fun c => if c = flag then some c else none) chars
  (found.isSome, rest)

/-- Reads what a gap is filled with and the alignment. A filling is only one if an
alignment follows it. -/
def readAlignment (chars : List Char) : Option Char × Option Alignment × List Char :=
  match chars with
  | fill :: c :: rest =>
    match Alignment.ofChar? c with
    | some alignment => (some fill, some alignment, rest)
    | none => (none, readOption Alignment.ofChar? chars)
  | _ => (none, readOption Alignment.ofChar? chars)

/-- Reads a number in the digits of any script, if one comes next. -/
def readNumber (chars : List Char) : Except Fault (Option Nat × List Char) :=
  let isDigit := fun c => (decimalDigit? c).isSome
  let digits := (chars.takeWhile isDigit).map plainNumeralChar
  if digits.isEmpty then .ok (none, chars)
  else
    let n := Numeral.natOfDigits digits
    if maxNumber < n then .error tooManyDigits else .ok (some n, chars.dropWhile isDigit)

/-- Reads the separator of groups. -/
def readSeparator (chars : List Char) : Except Fault (Option Char × List Char) :=
  let (comma, rest) := readFlag ',' chars
  let (underscore, rest) := readFlag '_' rest
  if underscore && (comma || rest.head? = some ',') then
    .error (malformed "Cannot specify both ',' and '_'.")
  else if comma then .ok (some ',', rest)
  else .ok (if underscore then some '_' else none, rest)

/-- Reads the precision. -/
def readPrecision : List Char → Except Fault (Option Nat × List Char)
  | '.' :: rest => do
    let (precision, rest) ← readNumber rest
    if precision.isNone then .error (malformed "Format specifier missing precision")
    else return (precision, rest)
  | chars => .ok (none, chars)

/-- A presentation between apostrophes; what is not visible by its number. -/
def shownLetter (c : Char) : String :=
  if 32 < c.toNat && c.toNat < 128 then "'" ++ c.toString ++ "'"
  else "'\\x" ++ String.ofList (Nat.toDigits 16 c.toNat) ++ "'"

/-- The presentations in which digits are grouped by threes. The null character stands for none. -/
def groupedByThree : List Char := ['\x00', 'd', 'e', 'f', 'g', 'E', 'G', '%', 'F']

/-- The presentations in which digits are grouped by fours. -/
def groupedByFour : List Char := ['b', 'o', 'x', 'X']

/-- Refuses a separator in a presentation that has no groups. -/
def checkSeparator (f : FieldFormat) : Except Fault Unit :=
  match f.separator, f.presentation with
  | some separator, some c =>
    if groupedByThree.contains c || (separator = '_' && groupedByFour.contains c) then .ok ()
    else
      .error (malformed ("Cannot specify " ++ shownLetter separator ++ " with " ++ shownLetter c ++ "."))
  | _, _ => .ok ()

/-- Reads a format against a standard one. The name is that of the class of what is shown. -/
def read (standard : FieldFormat) (typeName : String) (chars : List Char) :
    Except Fault FieldFormat := do
  let (fill, alignment, rest) := readAlignment chars
  let (sign, rest) := readOption SignRule.ofChar? rest
  let (plainZero, rest) := readFlag 'z' rest
  let (alternate, rest) := readFlag '#' rest
  let (zeros, rest) := if fill.isSome then (false, rest) else readFlag '0' rest
  let (width, rest) ← readNumber rest
  let (separator, rest) ← readSeparator rest
  let (precision, rest) ← readPrecision rest
  let (presentation, rest) := readOption some rest
  if !rest.isEmpty then
    .error (malformed ("Invalid format specifier '" ++ String.ofList chars ++ "' for object of type '" ++
      clip Fault.longNameLimit typeName ++ "'"))
  else
    let usual := if zeros && standard.alignment = .right then .inner else standard.alignment
    let f : FieldFormat :=
      ⟨fill.getD (if zeros then '0' else standard.fill), alignment.getD usual, sign, plainZero,
        alternate, width.getD 0, separator, precision, presentation <|> standard.presentation⟩
    f.checkSeparator
    return f

/-- The fault that a kind has no such presentation. -/
def unknownPresentation (c : Char) (typeName : String) : Fault :=
  malformed ("Unknown format code " ++ shownLetter c ++ " for object of type '" ++
    clip Fault.longNameLimit typeName ++ "'")

/-- How the digits of a number are grouped. -/
def grouping (f : FieldFormat) : Option Grouping :=
  f.separator.map fun separator =>
    ⟨separator, if f.presentation.any groupedByFour.contains then 4 else 3⟩

/-- A number laid out. Where zeros fill the gap, they are digits of the number. -/
def layOut (f : FieldFormat) (zeros : Bool) (p : NumberParts) : String :=
  let front := SignRule.chars f.sign p.negative ++ p.mark
  let width := if zeros then f.width - (front.length + p.rest.length) else 0
  let digits := if p.whole.isEmpty then [] else setDigits f.grouping width p.whole
  String.ofList (fillTo f.alignment f.fill f.width front (digits ++ p.rest))

/-- The standard format of texts. -/
def forText : FieldFormat where
  alignment := .left
  presentation := some 's'

/-- Refuses what makes no sense for a text. -/
def checkForText (f : FieldFormat) : Except Fault Unit :=
  let refuse := fun (what : String) => Except.error (malformed (what ++ " in string format specifier"))
  if f.sign = some .blank then refuse "Space not allowed"
  else if f.sign.isSome then refuse "Sign not allowed"
  else if f.plainZero then refuse "Negative zero coercion (z) not allowed"
  else if f.alternate then refuse "Alternate form (#) not allowed"
  else if f.alignment = .inner then refuse "'=' alignment not allowed"
  else .ok ()

/-- A text shown in a format. -/
def showText (typeName content : String) (chars : List Char) : Except Fault String := do
  let f ← forText.read typeName chars
  match f.presentation with
  | some 's' | none =>
    f.checkForText
    let shown := match f.precision with
      | some n => content.toList.take n
      | none => content.toList
    return String.ofList (fillTo f.alignment f.fill f.width [] shown)
  | some c => .error (unknownPresentation c typeName)

end FieldFormat

end FilterAlgebra
