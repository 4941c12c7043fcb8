import FilterAlgebra.Number.Binary64
import FilterAlgebra.Number.Decimal

/-!
# Rounding to floating-point numbers

A fraction is rounded to the nearest floating-point number, a tie to the even
significand. The exponent is chosen so that the significand has 53 bits, or fewer
at the bottom of the range; what would need a greater exponent is infinite. A
number is read from text by rounding the decimal that the text stands for.
-/

set_option autoImplicit false

namespace FilterAlgebra.Binary64

/-- The quotient rounded to a natural number, half-way cases to the even one. -/
def roundQuotient (top bottom : Nat) : Nat :=
  let q := top / bottom
  let twice := 2 * (top % bottom)
  if bottom < twice || (twice == bottom && q % 2 == 1) then q + 1 else q

/-- The exponent of the leading bit of a positive fraction. -/
def leadingExponent (top bottom : Nat) : Int :=
  let e : Int := top.log2 - bottom.log2
  if bottom * twoTo e.toNat ≤ top * twoTo (-e).toNat then e else e - 1

/-- The number with the given sign and the given fields. -/
def ofFields (negative : Bool) (exponentField fraction : Nat) : Binary64 :=
  ⟨UInt64.ofNat ((if negative then twoTo 63 else 0) + exponentField * twoTo 52 + fraction)⟩

/-- The floating-point number nearest to a fraction. -/
def ofFraction (negative : Bool) (top bottom : Nat) : Binary64 :=
  if top = 0 then ofFields negative 0 0
  else
    let q := max (leadingExponent top bottom - 52) (-1074)
    let m := roundQuotient (top * twoTo (-q).toNat) (bottom * twoTo q.toNat)
    -- A significand of 53 bits carries its leading bit into the exponent field.
    let fields := m + (q + 1074).toNat * twoTo 52
    if 2047 * twoTo 52 ≤ fields then ofFields negative 2047 0 else ofFields negative 0 fields

/-- The floating-point number nearest to an integer. -/
def ofInt (n : Int) : Binary64 :=
  ofFraction (n < 0) n.natAbs 1

/-- The floating-point number nearest to a decimal; signaling values have none. -/
def ofDecimal? : Decimal → Option Binary64
  | .finite negative c e =>
    let digits : Int := (Nat.toDigits 10 c).length
    if c = 0 || e + digits < -400 then some (ofFields negative 0 0)
    else if 400 < e + digits then some (ofFields negative 2047 0)
    else some (ofFraction negative (c * tenTo e.toNat) (tenTo (-e).toNat))
  | .infinite negative => some (ofFields negative 2047 0)
  | .nan negative signaling _ =>
    if signaling then none else some (ofFields negative 2047 (twoTo 51))

/-- The characters of a number without the underscores, each of which must
stand between two digits. -/
def dropSeparators : List Char → Option (List Char)
  | [] => some []
  | '_' :: _ => none
  | c :: '_' :: d :: rest =>
    if c.isDigit && d.isDigit then (c :: ·) <$> dropSeparators (d :: rest) else none
  | c :: rest => (c :: ·) <$> dropSeparators rest

/-- Reads a number without its sign from the characters of ASCII in lower case. -/
def readUnsigned (negative : Bool) (chars : List Char) : Option Binary64 :=
  if Decimal.isInfinityWord chars then ofDecimal? (.infinite negative)
  else if chars = "nan".toList then ofDecimal? (.nan negative false 0)
  else (Decimal.readFinite negative chars).bind ofDecimal?

/-- Reads a number from the characters of ASCII. -/
def readChars? (chars : List Char) : Option Binary64 := do
  let chars ← dropSeparators (trimBy isPlainBlank chars)
  let (negative, body) := Numeral.readSign (chars.map Char.toLower)
  readUnsigned negative body

/-- Reads a number from its text, in the digits of any script. -/
def ofString? (s : String) : Option Binary64 :=
  readChars? (s.toList.map plainNumeralChar)

end FilterAlgebra.Binary64
