import FilterAlgebra.Number.Power

/-!
# Binary floating-point numbers

A number of 64 bits is kept as its bits, so that equal bits are equal numbers and
nothing depends on machine arithmetic. Its magnitude is read off exactly: a
natural number times a power of two, or one of the two special cases.
-/

set_option autoImplicit false

namespace FilterAlgebra

/-- A binary floating-point number of 64 bits, given by its bits. -/
structure Binary64 where
  bits : UInt64
  deriving DecidableEq

namespace Binary64

/-- The magnitude of a number: a natural number times a power of two, unless it is special. -/
inductive Magnitude where
  | nan
  | infinite
  | finite (significand : Nat) (exponent : Int)
  deriving DecidableEq

/-- The sign bit. -/
def negative (x : Binary64) : Bool :=
  x.bits.toNat / twoTo 63 = 1

/-- The eleven bits of the exponent field. -/
def exponentField (x : Binary64) : Nat :=
  x.bits.toNat / twoTo 52 % twoTo 11

/-- The fifty-two bits of the fraction field. -/
def fractionField (x : Binary64) : Nat :=
  x.bits.toNat % twoTo 52

/-- The exact magnitude. -/
def magnitude (x : Binary64) : Magnitude :=
  if x.exponentField = 2047 then
    if x.fractionField = 0 then .infinite else .nan
  else if x.exponentField = 0 then .finite x.fractionField (-1074)
  else .finite (twoTo 52 + x.fractionField) (x.exponentField - 1075)

/-- Neither infinite nor the special case that is no number. -/
def isFinite (x : Binary64) : Bool :=
  x.exponentField ≠ 2047

/-- The value as a fraction of an integer by a positive natural number, if it is finite. -/
def fraction? (x : Binary64) : Option (Int × Nat) :=
  match x.magnitude with
  | .finite m q =>
    let top : Int := m * twoTo q.toNat
    some (if x.negative then -top else top, twoTo (-q).toNat)
  | _ => none

/-- The integer a finite number without a fractional part stands for. -/
def integer? (x : Binary64) : Option Int :=
  match x.fraction? with
  | some (top, bottom) => if top % bottom = 0 then some (top / bottom) else none
  | none => none

/-- Positive infinity. -/
def infinity : Binary64 := ⟨0x7ff0000000000000⟩

end Binary64

end FilterAlgebra
