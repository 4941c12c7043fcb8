import FilterAlgebra.Number.Rounding

/-!
# Exact conversions of numbers

Every finite floating-point number is a decimal, because a power of two below one is
a power of five over one of ten. Cut off after the point, every finite number is an
integer.
-/

set_option autoImplicit false

namespace FilterAlgebra

namespace Binary64

/-- A significand and an exponent below zero, both divided by two as long as
that leaves no remainder. -/
def reduce : Nat → Nat → Nat × Nat
  | m, 0 => (m, 0)
  | m, places + 1 => if m % 2 = 0 then reduce (m / 2) places else (m, places + 1)

/-- A floating-point number as a decimal of the same value. -/
def toDecimal (x : Binary64) : Decimal :=
  match x.magnitude with
  | .nan => .nan false false 0
  | .infinite => .infinite x.negative
  | .finite m q =>
    let (m, places) := reduce m (-q).toNat
    .finite x.negative (m * twoTo q.toNat * Nat.pow 5 places) (-places)

end Binary64

/-- A fraction cut off after the point. -/
def truncate (top : Int) (bottom : Nat) : Int :=
  top.tdiv bottom

end FilterAlgebra
