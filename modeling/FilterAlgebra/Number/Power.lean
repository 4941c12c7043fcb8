/-!
# Powers of two and of ten

Floating-point numbers are scaled by powers of two and decimals by powers of ten.
Both are natural numbers; negative exponents stand in denominators.
-/

set_option autoImplicit false

namespace FilterAlgebra

/-- A power of two. -/
def twoTo (n : Nat) : Nat := Nat.pow 2 n

/-- A power of ten. -/
def tenTo (n : Nat) : Nat := Nat.pow 10 n

end FilterAlgebra
