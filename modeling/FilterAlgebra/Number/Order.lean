import FilterAlgebra.Number.Comparison

/-!
# The order of numbers

Numbers of any form are ordered by their values. What is no number stands in no order
to anything. Of two positive numbers the one with more digits before the point is the
greater, so numbers of very different sizes are never written out to be compared.
-/

set_option autoImplicit false

namespace FilterAlgebra.NumberValue

/-- How many digits a positive coefficient times a power of ten has before the point; none count
below it. -/
def reach (c : Nat) (e : Int) : Int :=
  e + (Nat.toDigits 10 c).length

/-- Compares two positive coefficients, each times a power of ten. -/
def compareMagnitudes (c : Nat) (e : Int) (d : Nat) (f : Int) : Ordering :=
  match compare (reach c e) (reach d f) with
  | .eq => compare (c * tenTo (e - f).toNat) (d * tenTo (f - e).toNat)
  | order => order

/-- Compares two numbers, unless one of them is no number. -/
def compare? : NumberValue → NumberValue → Option Ordering
  | nan, _ | _, nan => none
  | infinite a, infinite b => some (compare (sign a) (sign b))
  | infinite a, _ => some (compare (sign a) 0)
  | _, infinite b => some (compare 0 (sign b))
  | finite a c e, finite b d f =>
    if c = 0 then some (compare 0 (if d = 0 then 0 else sign b))
    else if d = 0 then some (compare (sign a) 0)
    else if a = b then
      let order := compareMagnitudes c e d f
      some (if a then order.swap else order)
    else some (compare (sign a) (sign b))
where
  /-- Below zero or above. -/
  sign (negative : Bool) : Int :=
    if negative then -1 else 1

/-- Whether a number is less than another. -/
def less (a b : NumberValue) : Bool :=
  a.compare? b = some .lt

/-- Whether a number is at most another. -/
def atMost (a b : NumberValue) : Bool :=
  a.compare? b = some .lt || a.compare? b = some .eq

end FilterAlgebra.NumberValue
