import FilterAlgebra.Number.Binary64

/-!
# The shortest decimal that reads back

Every finite number stands for the interval of reals that round to it, ends
included exactly when its significand is even. Among the decimals of that
interval the one with the fewest digits is chosen, of several such the nearest,
and of two equally near the even one. For each length only the two neighbours of
the value on the decimal grid can qualify, so these are tested, in exact
arithmetic and from one digit upwards. Seventeen digits always suffice.
-/

set_option autoImplicit false

namespace FilterAlgebra.Shortest

/-- A decimal: digits times a power of ten. -/
structure Digits where
  digits : Nat
  exponent : Int
  deriving DecidableEq

/-- A positive significand times a power of two, and whether the gap below it
is half the gap above. -/
structure Target where
  significand : Nat
  exponent : Int
  narrowBelow : Bool

/-- Compares `a` times a power of ten with `b` times a power of two. -/
def compareScaled (a : Nat) (i : Int) (b : Nat) (j : Int) : Ordering :=
  compare (a * tenTo i.toNat * twoTo (-j).toNat) (b * twoTo j.toNat * tenTo (-i).toNat)

/-- Whether a decimal lies in the interval of reals that round to the target. -/
def Target.readsBack (x : Target) (d : Digits) : Bool :=
  let low := if x.narrowBelow then 4 * x.significand - 1 else 4 * x.significand - 2
  let high := 4 * x.significand + 2
  let closed := x.significand % 2 == 0
  let below := compareScaled d.digits d.exponent low (x.exponent - 2)
  let above := compareScaled d.digits d.exponent high (x.exponent - 2)
  (below == .gt || (closed && below == .eq)) && (above == .lt || (closed && above == .eq))

/-- The value as a quotient of natural numbers. -/
def Target.quotient (x : Target) : Nat × Nat :=
  (x.significand * twoTo x.exponent.toNat, twoTo (-x.exponent).toNat)

/-- The number of decimal digits. -/
def digitCount (n : Nat) : Nat :=
  (Nat.toDigits 10 n).length

/-- The place of the decimal point: the least `k` with the value below the `k`-th power of ten. -/
def Target.pointPlace (x : Target) : Int :=
  let (top, bottom) := x.quotient
  if bottom ≤ top then digitCount (top / bottom)
  else 1 - digitCount ((bottom + top - 1) / top - 1)

/-- The greatest multiple of the given power of ten that does not exceed the value. -/
def Target.floorOnGrid (x : Target) (grid : Int) : Nat :=
  let (top, bottom) := x.quotient
  top * tenTo (-grid).toNat / (bottom * tenTo grid.toNat)

/-- Of two neighbours on a grid the one nearer to the value; the even one of two equally near. -/
def Target.nearer (x : Target) (d : Nat) (grid : Int) : Nat :=
  match compareScaled (2 * d + 1) grid (2 * x.significand) x.exponent with
  | .lt => d + 1
  | .gt => d
  | .eq => if d % 2 = 0 then d else d + 1

/-- The decimal of the given length that reads back, if there is one. -/
def Target.ofLength (x : Target) (length : Nat) : Option Digits :=
  let grid := x.pointPlace - length
  let d := x.floorOnGrid grid
  match x.readsBack ⟨d, grid⟩, x.readsBack ⟨d + 1, grid⟩ with
  | true, true => some ⟨x.nearer d grid, grid⟩
  | true, false => some ⟨d, grid⟩
  | false, true => some ⟨d + 1, grid⟩
  | false, false => none

/-- The value written out in full: a power of two is a power of ten after scaling by fives. -/
def Target.inFull (x : Target) : Digits :=
  ⟨x.significand * twoTo x.exponent.toNat * Nat.pow 5 (-x.exponent).toNat, min x.exponent 0⟩

/-- The shortest decimal that reads back. -/
def Target.shortest (x : Target) : Digits :=
  ((List.range' 1 17).findSome? x.ofLength).getD x.inFull

end FilterAlgebra.Shortest

namespace FilterAlgebra.Binary64

/-- The target of a finite number other than zero. -/
def target (x : Binary64) (significand : Nat) (exponent : Int) : Shortest.Target :=
  ⟨significand, exponent, x.fractionField == 0 && 1 < x.exponentField⟩

end FilterAlgebra.Binary64
