import FilterAlgebra.Number.Notation
import FilterAlgebra.Text.FieldFormat

/-!
# Decimals in formats

The formats of decimals have a grammar of their own: an alignment and the zero that fills
the gap exclude each other, and the comma is the only separator. Formats come in two
readings. The narrow one knows the digits of ASCII alone and ends at a null character;
what it does not understand is given to the wide one, which knows the digits of all
scripts, formats in which zeros have no sign, and those in which the point is always shown.

A decimal is shown with all of its digits unless a precision is given, and without a
letter in its usual form. Infinity and the values that are no number are never filled
with zeros.
-/

set_option autoImplicit false

namespace FilterAlgebra.Decimal

/-- The fault of a format that is not well formed. -/
def malformedFormat : Fault :=
  FieldFormat.malformed "invalid format string"

/-- The greatest number of digits and the greatest width. -/
def maxDigits : Nat := 999999999999999999

/-- A format of decimals. -/
structure Format extends FieldFormat where
  /-- Whether zeros fill the gap, as digits of the number. -/
  zeros : Bool

/-- The fault of a format that asks for too much: for more than can be counted, or only
for more than is written. -/
def beyondLimits (f : Format) : Fault :=
  if FieldFormat.maxNumber < max f.width (f.precision.getD 0) then
    .badArguments .overflow "cannot fit 'int' into an index-sized integer"
  else FieldFormat.malformed "format specification exceeds internal limits of _decimal"

/-- The standard format of decimals. -/
def standardFormat : FieldFormat where
  alignment := .right
  presentation := some 'G'

/-- A format without what is behind a null character. Only the filling may be one. -/
def untilNull : List Char → List Char
  | [] => []
  | c :: rest => c :: rest.takeWhile (· ≠ '\x00')

/-- Reads a number in the digits of ASCII, unless it is too great. Nothing stands for none. -/
def readCount (chars : List Char) : Option (Option Nat × List Char) :=
  let digits := chars.takeWhile Char.isDigit
  let n := Numeral.natOfDigits digits
  if digits.isEmpty then some (none, chars)
  else if FieldFormat.maxNumber < n then none
  else some (some n, chars.dropWhile Char.isDigit)

/-- Reads a number in the digits of any script, unless it has too many. Nothing stands for none. -/
def readAnyCount (chars : List Char) : Option (Option Nat × List Char) :=
  let isDigit := fun c => (decimalDigit? c).isSome
  let digits := (chars.takeWhile isDigit).map plainNumeralChar
  if digits.isEmpty then some (none, chars)
  else if Numeral.maxDigits < digits.length then none
  else some (some (Numeral.natOfDigits digits), chars.dropWhile isDigit)

/-- Reads the point and the precision, by one of the two readings of numbers. -/
def readPrecision (count : List Char → Option (Option Nat × List Char)) :
    List Char → Option (Option Nat × List Char)
  | '.' :: rest => do
    let (precision, rest) ← count rest
    if precision.isNone then none else return (precision, rest)
  | chars => some (none, chars)

/-- The presentation that a letter stands for. The letters for local customs are synonyms, but
have no separator. -/
def presentationOf? (grouped : Bool) (c : Char) : Option Char :=
  if c = 'n' then if grouped then none else some 'g'
  else if c = 'N' then if grouped then none else some 'G'
  else if ['e', 'E', 'f', 'F', 'g', 'G', '%'].contains c then some c
  else none

/-- Reads what follows the sign and the flags, up to the end: the zero that fills the gap, the
width, the separator, the precision and the presentation. -/
def readRest (count : List Char → Option (Option Nat × List Char)) (f : FieldFormat)
    (alignment : Option Alignment) (chars : List Char) : Option Format := do
  let (zeros, rest) := FieldFormat.readFlag '0' chars
  if zeros && alignment.isSome || rest.head? = some '0' then none
  else
    let (width, rest) ← count rest
    let (comma, rest) := FieldFormat.readFlag ',' rest
    let (precision, rest) ← readPrecision count rest
    let (presentation, rest) := FieldFormat.readOption (presentationOf? comma) rest
    if !rest.isEmpty then none
    else
      return {
        fill := if zeros then '0' else f.fill
        alignment := alignment.getD (if zeros then .inner else standardFormat.alignment)
        sign := f.sign
        plainZero := f.plainZero
        alternate := f.alternate
        width := width.getD 0
        separator := if comma then some ',' else none
        precision := precision
        presentation := presentation <|> standardFormat.presentation
        zeros := zeros }

/-- The narrow reading of a format. -/
def narrowFormat? (chars : List Char) : Option Format :=
  let (fill, alignment, rest) := FieldFormat.readAlignment (untilNull chars)
  let (sign, rest) := FieldFormat.readOption SignRule.ofChar? rest
  if chars.head? = some '\x00' && fill.isNone then none
  else
    readRest readCount { standardFormat with fill := fill.getD standardFormat.fill, sign := sign }
      alignment rest

/-- Whether a precision is written as the wide reading has it: without zeros in front of it. -/
def isPlainPrecision (chars : List Char) : Bool :=
  match chars.dropWhile (· ≠ '.') with
  | _ :: '0' :: c :: _ => (decimalDigit? c).isNone
  | _ => true

/-- The wide reading of a format. -/
def wideFormat? (chars : List Char) : Option Format :=
  let (fill, alignment, rest) := FieldFormat.readAlignment chars
  let (sign, rest) := FieldFormat.readOption SignRule.ofChar? rest
  let (plainZero, rest) := FieldFormat.readFlag 'z' rest
  let (alternate, rest) := FieldFormat.readFlag '#' rest
  let f := { standardFormat with
    fill := fill.getD standardFormat.fill, sign := sign, plainZero := plainZero,
    alternate := alternate }
  if isPlainPrecision rest && rest.getLast? ≠ some 'N' then readRest readAnyCount f alignment rest
  else none

/-- Reads a format. -/
def readFormat (chars : List Char) : Except Fault Format :=
  malformedFormat.ofOption (narrowFormat? chars <|> wideFormat? chars)

/-- An exponent with its letter and its sign. -/
def exponentPart (e : Int) : List Char :=
  'e' :: (if e < 0 then '-' else '+') :: Nat.toDigits 10 e.natAbs

/-- A number with an exponent, to all of its digits or to so many behind the point. The
digits of zero lie behind its own last place. -/
def scientific (f : Format) (c : Nat) (e : Int) : NumberParts :=
  let digits := Nat.toDigits 10 c
  let p : Notation.Placed := match f.precision with
    | some n =>
      if c = 0 then ⟨List.replicate (n + 1) '0', e + n + 1⟩ else Notation.significant (n + 1) c e
    | none => ⟨digits, e + digits.length⟩
  Notation.scaled f.alternate (exponentPart (p.place - 1)) p.digits

/-- A number in its usual form, to all of its digits or to so many. -/
def usual (f : Format) (c : Nat) (e : Int) : NumberParts :=
  let length := max (f.precision.getD 0) 1
  let digits := (Nat.toDigits 10 c).length
  let (c, e) :=
    if f.precision.isSome && length < digits then
      let p := Notation.significant length c e
      (Numeral.natOfDigits p.digits, p.place - length)
    else (c, e)
  let p := NumberParts.ofChars ((magnitudeChars c e).map Char.toLower)
  if f.alternate && p.rest.head? ≠ some '.' then { p with rest := '.' :: p.rest } else p

/-- The greatest number of zeros that are written to bring a number to its places. -/
def maxZeros : Int := 10000000

/-- The magnitude of a finite decimal in a presentation. -/
def finiteParts (f : Format) (c : Nat) (e : Int) : Except Fault NumberParts :=
  match f.presentation.map Char.toLower with
  | some 'g' => .ok (usual f c e)
  | some 'e' =>
    if f.precision.any (maxZeros < ·) then .error (beyondLimits f)
    else .ok (scientific f c e)
  | presentation =>
    let e := if presentation = some '%' then e + 2 else e
    let places : Int := match f.precision with
      | some n => n
      | none => -e
    if maxZeros < places ∨ c ≠ 0 ∧ maxZeros < e + places then .error (beyondLimits f)
    else .ok (Notation.fixed f.alternate places.toNat c e)

/-- A decimal shown in a format that has been read. -/
def showIn (f : Format) (d : Decimal) : Except Fault String := do
  let rest := if f.presentation = some '%' then ['%'] else []
  if maxDigits < f.width then .error (beyondLimits f)
  else
    match d with
    | .finite negative c e =>
      let p ← finiteParts f c e
      let p := if f.presentation.any Char.isUpper then p.capital else p
      let negative := negative && !(f.plainZero && p.isZero)
      return f.layOut f.zeros { p with negative := negative, rest := p.rest ++ rest }
    | d =>
      let f : Format := if f.zeros then { f with fill := ' ', alignment := .right } else f
      return f.layOut false ⟨d.isNegative, [], [], d.unsignedChars ++ rest⟩

/-- A decimal shown in a format. -/
def showInFormat (d : Decimal) (chars : List Char) : Except Fault String := do
  showIn (← readFormat chars) d

end FilterAlgebra.Decimal
