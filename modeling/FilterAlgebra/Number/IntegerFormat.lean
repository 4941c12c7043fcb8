import FilterAlgebra.Text.FieldFormat

/-!
# Integers in formats

An integer is shown in one of four bases or as the character that it is the number of.
It has no precision. The base is marked where the format asks for it. Like every decimal
numeral, one in a format may not have too many digits.
-/

set_option autoImplicit false

namespace FilterAlgebra.Numeral

/-- The standard format of integers. -/
def standardFormat : FieldFormat where
  alignment := .right
  presentation := some 'd'

/-- The letters of the presentations of integers that are their own. -/
def presentations : List Char := ['b', 'c', 'd', 'o', 'x', 'X', 'n']

/-- The greatest number of a character. -/
def maxCharacter : Int := 0x10ffff

/-- The integers of 64 bits. -/
def isLong (n : Int) : Bool :=
  -9223372036854775808 ≤ n && n ≤ 9223372036854775807

/-- The character that an integer is the number of. -/
def characterParts (f : FieldFormat) (n : Int) : Except Fault NumberParts :=
  if f.sign.isSome then
    .error (FieldFormat.malformed "Sign not allowed with integer format specifier 'c'")
  else if f.alternate then
    .error (FieldFormat.malformed "Alternate form (#) not allowed with integer format specifier 'c'")
  else if !isLong n then
    .error (.badArguments .overflow "Python int too large to convert to C long")
  else if n < 0 ∨ maxCharacter < n then
    .error (.badArguments .overflow "%c arg not in range(0x110000)")
  else .ok ⟨false, [], [], [Char.ofNat n.toNat]⟩

/-- The digits of an integer with the mark of their base. -/
def baseParts (f : FieldFormat) (letter : Char) (base : Nat) (n : Int) : NumberParts :=
  ⟨n < 0, if f.alternate then ['0', letter] else [], Nat.toDigits base n.natAbs, []⟩

/-- An integer in a presentation. -/
def parts (f : FieldFormat) (n : Int) : Except Fault NumberParts :=
  match f.presentation with
  | some 'b' => .ok (baseParts f 'b' 2 n)
  | some 'o' => .ok (baseParts f 'o' 8 n)
  | some 'x' => .ok (baseParts f 'x' 16 n)
  | some 'X' => .ok (baseParts f 'x' 16 n).capital
  | some 'c' => characterParts f n
  | _ =>
    if n.natAbs < bound then .ok ⟨n < 0, [], Nat.toDigits 10 n.natAbs, []⟩
    else .error .tooManyDigits

/-- An integer shown in a format that has been read. -/
def showIn (f : FieldFormat) (n : Int) : Except Fault String := do
  if f.precision.isSome then
    .error (FieldFormat.malformed "Precision not allowed in integer format specifier")
  else if f.plainZero then
    .error (FieldFormat.malformed
      "Negative zero coercion (z) not allowed in integer format specifier")
  else
    let p ← parts f n
    return f.layOut (f.fill = '0' ∧ f.alignment = .inner) p

end FilterAlgebra.Numeral
