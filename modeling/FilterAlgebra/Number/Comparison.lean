import FilterAlgebra.Number.Binary64
import FilterAlgebra.Number.Decimal

/-!
# Numbers of one value

Integers, floating-point numbers and decimals can be of one value in different
forms. Every finite one of them is a coefficient times a power of ten, and it is
so in one way only if the coefficient may not end in a zero. Numbers are compared
by that form, so that a decimal with a great exponent is never written out.
-/

set_option autoImplicit false

namespace FilterAlgebra

/-- The value of a number, in a form of which there is only one for each value. -/
inductive NumberValue where
  /-- A sign, a coefficient that does not end in a zero, and a power of ten; zero has no sign. -/
  | finite (negative : Bool) (coefficient : Nat) (exponent : Int)
  | infinite (negative : Bool)
  | nan
  deriving DecidableEq

namespace NumberValue

/-- A coefficient without the zeros at its end, and how many they were. At most
`steps` are taken off. -/
def trimZeros : Nat → Nat → Nat × Nat
  | 0, c => (c, 0)
  | steps + 1, c =>
    if c % 10 = 0 then
      let (rest, count) := trimZeros steps (c / 10)
      (rest, count + 1)
    else (c, 0)

/-- A coefficient times a power of ten as the value of a number. -/
def ofScaled (negative : Bool) (c : Nat) (e : Int) : NumberValue :=
  if c = 0 then finite false 0 0
  else
    let (rest, count) := trimZeros c.log2 c
    finite negative rest (e + count)

/-- The value of an integer. -/
def ofInt (n : Int) : NumberValue :=
  ofScaled (n < 0) n.natAbs 0

/-- The value of a floating-point number. A power of two below one is a power
of five over one of ten. -/
def ofBinary64 (x : Binary64) : NumberValue :=
  match x.magnitude with
  | .nan => nan
  | .infinite => infinite x.negative
  | .finite m q => ofScaled x.negative (m * twoTo q.toNat * Nat.pow 5 (-q).toNat) (min q 0)

/-- The value of a decimal. -/
def ofDecimal : Decimal → NumberValue
  | .finite negative c e => ofScaled negative c e
  | .infinite negative => infinite negative
  | .nan .. => nan

/-- Whether two numbers are equal. What is no number equals nothing. -/
def same : NumberValue → NumberValue → Bool
  | nan, _ => false
  | a, b => a = b

end NumberValue

end FilterAlgebra
