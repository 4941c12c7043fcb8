import FilterAlgebra.Number.Numeral

/-!
# Decimal numbers of any precision

A finite decimal keeps its coefficient and its exponent, so `1.5` and `1.50` are
equal in value and different in form. Infinity and the values that are no number
have forms of their own. Text is read leniently (either case, an optional
exponent, underscores, digits of any script) and written in one form: positional while
the exponent is not positive and the number not tiny, else with one digit before
the point and an exponent.
-/

set_option autoImplicit false

namespace FilterAlgebra

/-- A decimal number of any precision. -/
inductive Decimal where
  | finite (negative : Bool) (coefficient : Nat) (exponent : Int)
  | infinite (negative : Bool)
  | nan (negative signaling : Bool) (payload : Nat)
  deriving DecidableEq

namespace Decimal

/-- Neither infinite nor one of the values that are no number. -/
def isFinite : Decimal → Bool
  | .finite .. => true
  | _ => false

/-- The exponent part of a written decimal: nothing for zero, else a letter,
the sign and the digits. -/
def exponentChars (e : Int) : List Char :=
  if e = 0 then []
  else 'E' :: (if e < 0 then '-' else '+') :: Nat.toDigits 10 e.natAbs

/-- The characters of a coefficient with an exponent. -/
def magnitudeChars (coefficient : Nat) (exponent : Int) : List Char :=
  let digits := Nat.toDigits 10 coefficient
  let left := exponent + digits.length
  let place := if exponent ≤ 0 ∧ -6 < left then left else 1
  let body :=
    if place ≤ 0 then '0' :: '.' :: (List.replicate (-place).toNat '0' ++ digits)
    else
      let front := place.toNat
      match digits.drop front with
      | [] => digits ++ List.replicate (front - digits.length) '0'
      | rest => digits.take front ++ '.' :: rest
  body ++ exponentChars (left - place)

/-- The characters of a decimal without its sign. -/
def unsignedChars : Decimal → List Char
  | .finite _ c e => magnitudeChars c e
  | .infinite _ => "Infinity".toList
  | .nan _ signaling payload =>
    (if signaling then ['s'] else []) ++ "NaN".toList ++
      (if payload = 0 then [] else Nat.toDigits 10 payload)

/-- The sign of a decimal. -/
def isNegative : Decimal → Bool
  | .finite n .. | .infinite n | .nan n .. => n

/-- The text of a decimal. -/
def text (d : Decimal) : String :=
  String.ofList (if d.isNegative then '-' :: d.unsignedChars else d.unsignedChars)

/-- The value as a fraction of an integer by a positive natural number, if it is finite. -/
def fraction? : Decimal → Option (Int × Nat)
  | .finite negative c e =>
    let top : Int := c * tenTo e.toNat
    some (if negative then -top else top, tenTo (-e).toNat)
  | _ => none

/-- Reads the end of a number after its digits: nothing, or an exponent. -/
def readExponent : List Char → Option Int
  | [] => some 0
  | 'e' :: rest =>
    let (negative, digits) := Numeral.readSign rest
    if digits.isEmpty || !digits.all Char.isDigit then none
    else
      let e : Int := Numeral.natOfDigits digits
      some (if negative then -e else e)
  | _ => none

/-- Reads a number without its sign, in lower case: digits, a point and digits, an exponent. -/
def readFinite (negative : Bool) (chars : List Char) : Option Decimal :=
  let whole := chars.takeWhile Char.isDigit
  let (places, rest) := match chars.dropWhile Char.isDigit with
    | '.' :: rest => (rest.takeWhile Char.isDigit, rest.dropWhile Char.isDigit)
    | rest => ([], rest)
  if whole.isEmpty && places.isEmpty then none
  else (readExponent rest).map fun e =>
    .finite negative (Numeral.natOfDigits (whole ++ places)) (e - places.length)

/-- Reads a value that is no number, after its name: the digits of its payload. -/
def readPayload (negative signaling : Bool) (digits : List Char) : Option Decimal :=
  if digits.all Char.isDigit then some (.nan negative signaling (Numeral.natOfDigits digits)) else none

/-- The words for infinity, in lower case. -/
def isInfinityWord (chars : List Char) : Bool :=
  chars == "inf".toList || chars == "infinity".toList

/-- Reads a decimal from the characters of ASCII in lower case. -/
def readChars (chars : List Char) : Option Decimal :=
  let (negative, body) := Numeral.readSign chars
  if isInfinityWord body then some (.infinite negative)
  else
    match body with
    | 'n' :: 'a' :: 'n' :: digits => readPayload negative false digits
    | 's' :: 'n' :: 'a' :: 'n' :: digits => readPayload negative true digits
    | _ => readFinite negative body

/-- The greatest power of ten that a leading digit can stand for. -/
def maxExponent : Int := 999999999999999999

/-- The least power of ten that a last digit can stand for. -/
def minExponent : Int := -1999999999999999997

/-- Whether a decimal is within the range of decimals. -/
def inRange : Decimal → Bool
  | .finite _ c e => e + ((Nat.toDigits 10 c).length - 1 : Nat) ≤ maxExponent && minExponent ≤ e
  | _ => true

/-- Reads a decimal from its text, whatever its range. Underscores may stand anywhere. -/
def ofString? (s : String) : Option Decimal :=
  let chars := (trimBy isBlank s.toList).filter (· != '_')
  readChars (chars.map fun c => (plainNumeralChar c).toLower)

end Decimal

end FilterAlgebra
