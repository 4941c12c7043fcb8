/-!
# Bits of integers

An integer has infinitely many bits: from some place on all of them are zeros if it is
not negative, and ones if it is. The bits of a negative integer are the opposites of
those of the natural number that comes one before its magnitude.
-/

set_option autoImplicit false

namespace FilterAlgebra

/-- The bits of a natural number that another one does not have. -/
def bitsWithout (a b : Nat) : Nat :=
  a ^^^ (a &&& b)

/-- The bits that two integers have in common. -/
def commonBits : Int → Int → Int
  | .ofNat a, .ofNat b => .ofNat (a &&& b)
  | .ofNat a, .negSucc b => .ofNat (bitsWithout a b)
  | .negSucc a, .ofNat b => .ofNat (bitsWithout b a)
  | .negSucc a, .negSucc b => .negSucc (a ||| b)

end FilterAlgebra
