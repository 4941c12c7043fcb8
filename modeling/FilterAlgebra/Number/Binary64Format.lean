import FilterAlgebra.Number.Binary64Text
import FilterAlgebra.Number.Notation
import FilterAlgebra.Text.FieldFormat

/-!
# Floating-point numbers in formats

A floating-point number is shown to six places or digits unless a precision is given.
Without a letter it is shown as always, or, if a precision is given, by its size, but
with at least one digit on either side of the point. Numbers are shown by their exact
values. Percentages are multiplied first and rounded to a floating-point number.
-/

set_option autoImplicit false

namespace FilterAlgebra.Binary64

/-- How many places or digits are shown unless a precision is given. -/
def usualPrecision : Nat := 6

/-- The greatest precision. -/
def maxPrecision : Nat := 2147483647

/-- An exponent with its letter. -/
def exponentPart (place : Int) : List Char :=
  'e' :: exponentChars (place - 1)

/-- A number to so many digits, with an exponent if its size asks for one. Zeros at the end of the
fraction are only shown where the point always is. If it shall look like a floating-point
number, a digit follows the point. -/
def general (always pointed : Bool) (length c : Nat) (e : Int) : NumberParts :=
  let p := Notation.significant length c e
  let limit : Int := if pointed then length - 1 else length
  let digits := if always then p.digits else
    match Notation.trimmed p.digits with
    | [] => ['0']
    | digits => digits
  if p.place ≤ -4 ∨ limit < p.place then Notation.scaled always (exponentPart p.place) digits
  else
    let short : Int := p.place + (if pointed then 1 else 0) - digits.length
    let shown := digits ++ List.replicate (if pointed then short.toNat else 0) '0'
    Notation.placed always ⟨shown, p.place⟩

/-- A number as it is always written. -/
def usual (always : Bool) (x : Binary64) : NumberParts :=
  let p := NumberParts.ofChars x.magnitudeChars
  if always && p.rest.head? ≠ some '.' then { p with rest := '.' :: p.rest } else p

/-- The magnitude of a finite number in a presentation. -/
def finiteParts (f : FieldFormat) (x : Binary64) (c : Nat) (e : Int) : NumberParts :=
  let precision := f.precision.getD usualPrecision
  match f.presentation with
  | some 'e' =>
    let p := Notation.significant (precision + 1) c e
    Notation.scaled f.alternate (exponentPart p.place) p.digits
  | some 'f' | some '%' => Notation.fixed f.alternate precision c e
  | some 'g' => general f.alternate false (max precision 1) c e
  | _ =>
    match f.precision with
    | some precision => general f.alternate true (max precision 1) c e
    | none => usual f.alternate x

/-- The magnitude of a number in a presentation. -/
def parts (f : FieldFormat) (x : Binary64) : NumberParts :=
  match x.toDecimal with
  | .finite _ c e => finiteParts f x c e
  | _ => NumberParts.ofChars x.magnitudeChars

/-- A hundred times a number. -/
def percent (x : Binary64) : Binary64 :=
  match x.fraction? with
  | some (top, bottom) => ofFraction x.negative (100 * top.natAbs) bottom
  | none => x

/-- The letters of the presentations of floating-point numbers. -/
def presentations : List Char := ['\x00', 'e', 'E', 'f', 'F', 'g', 'G', 'n', '%']

/-- The letter in small, with `g` for its synonym. -/
def smallPresentation (c : Char) : Char :=
  if c = 'n' then 'g' else c.toLower

/-- A number shown in a format that has been read. -/
def showIn (f : FieldFormat) (x : Binary64) : Except Fault String :=
  if f.precision.any (maxPrecision < ·) then .error (FieldFormat.malformed "precision too big")
  else
    let x := if f.presentation = some '%' then x.percent else x
    let p := parts { f with presentation := f.presentation.map smallPresentation } x
    let negative := x.negative && x.magnitude ≠ .nan && !(f.plainZero && p.isZero)
    let p := { p with
      negative := negative
      rest := if f.presentation = some '%' then p.rest ++ ['%'] else p.rest }
    let capital := f.presentation.any fun c => c = 'E' || c = 'F' || c = 'G'
    .ok (f.layOut (f.fill = '0' ∧ f.alignment = .inner) (if capital then p.capital else p))

/-- The standard format of floating-point numbers. -/
def standardFormat : FieldFormat where
  alignment := .right

/-- A number shown in a format. -/
def showInFormat (typeName : String) (x : Binary64) (chars : List Char) : Except Fault String := do
  let f ← standardFormat.read typeName chars
  match f.presentation.filter (!presentations.contains ·) with
  | some c => .error (FieldFormat.unknownPresentation c typeName)
  | none => showIn f x

end FilterAlgebra.Binary64
