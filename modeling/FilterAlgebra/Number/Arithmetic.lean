import FilterAlgebra.Fault
import FilterAlgebra.Number.Exact
import FilterAlgebra.Number.Order

/-!
# Arithmetic

Integers are divided towards the lower one of two neighbours, so that the remainder has
the sign of the divisor. The sum, the difference, the product and the quotient of two
floating-point numbers are exact fractions rounded once; what is infinite or no number
goes by rules of its own, and a zero has a sign. Nothing is divided by zero.
-/

set_option autoImplicit false

namespace FilterAlgebra

namespace Arithmetic

/-- The fault of a division by zero. -/
def byZero (complaint : String) : Fault :=
  .badArguments .zeroDivision complaint

/-- The greatest exponent to which integers are raised, and the greatest place to which they are
shifted. -/
def greatestExponent : Nat := 100000

/-- The greater one of two neighbours of a quotient is never taken. -/
def floorQuotient (a b : Int) : Except Fault Int :=
  if b = 0 then .error (byZero "integer division or modulo by zero") else .ok (a.fdiv b)

/-- The remainder, which has the sign of the divisor. -/
def floorRemainder (a b : Int) : Except Fault Int :=
  if b = 0 then .error (byZero "integer modulo by zero") else .ok (a.fmod b)

/-- The quotient of two integers as a floating-point number. -/
def quotient (a b : Int) : Except Fault Binary64 :=
  if b = 0 then .error (byZero "division by zero")
  else
    let x := Binary64.ofFraction ((a < 0) != (b < 0) && a ≠ 0) a.natAbs b.natAbs
    if x.isFinite then .ok x
    else .error (.badArguments .overflow "integer division result too large for a float")

/-- An integer shifted to higher places. -/
def shiftUp (a n : Int) : Except Fault Int :=
  if n < 0 then .error (.badArguments .value "negative shift count")
  else if a = 0 then .ok 0
  else if greatestExponent < n.toNat then .error (.badArguments .overflow "too many digits in integer")
  else .ok (a * twoTo n.toNat)

/-- An integer shifted to lower places. -/
def shiftDown (a n : Int) : Except Fault Int :=
  if n < 0 then .error (.badArguments .value "negative shift count")
  else if greatestExponent < n.toNat then .ok (if a < 0 then -1 else 0)
  else .ok (a.fdiv (twoTo n.toNat))

/-- A power whose exponent is not negative; the first number is at least the exponent. -/
def power (a : Int) : Nat → Nat → Int
  | 0, _ => 1
  | _, 0 => 1
  | steps + 1, n =>
    let half := power a steps (n / 2)
    if n % 2 = 0 then half * half else half * half * a

/-- A power modulo a positive number; the first number is at least the exponent. -/
def powerModulo (a : Int) (m : Nat) : Nat → Nat → Int
  | 0, _ => 1 % m
  | _, 0 => 1 % m
  | steps + 1, n =>
    let half := powerModulo a m steps (n / 2)
    if n % 2 = 0 then half * half % m else half * half % m * a % m

/-- How many bits a natural number has. -/
def bitLength (n : Nat) : Nat :=
  if n = 0 then 0 else n.log2 + 1

/-- How many bits of a natural number are ones; at most so many bits are looked at. -/
def onesWithin : Nat → Nat → Nat
  | 0, _ => 0
  | bits + 1, n => n % 2 + onesWithin bits (n / 2)

/-- How many bits of a natural number are ones. -/
def ones (n : Nat) : Nat :=
  onesWithin (bitLength n) n

/-- A fraction in lowest terms. -/
def reduced (top : Int) (bottom : Nat) : Int × Nat :=
  let divisor := Nat.gcd top.natAbs bottom
  (top / divisor, bottom / divisor)

/-- An integer rounded to a multiple of a power of ten, half-way cases to the even multiple. -/
def roundTo (a : Int) (places : Nat) : Int :=
  let unit := tenTo places
  let n : Int := Binary64.roundQuotient a.natAbs unit * unit
  if a < 0 then -n else n

end Arithmetic

namespace Binary64

/-- Zero with a sign. -/
def zero (negative : Bool) : Binary64 :=
  ofFields negative 0 0

/-- What is no number. -/
def nan : Binary64 :=
  ofFields false 2047 (twoTo 51)

/-- Infinity with a sign. -/
def infinite (negative : Bool) : Binary64 :=
  ofFields negative 2047 0

/-- The number with the opposite sign. -/
def negated (x : Binary64) : Binary64 :=
  ofFields (!x.negative) x.exponentField x.fractionField

/-- The number without its sign. -/
def absolute (x : Binary64) : Binary64 :=
  ofFields false x.exponentField x.fractionField

/-- Whether a number is a zero. -/
def isZero (x : Binary64) : Bool :=
  x.exponentField = 0 && x.fractionField = 0

/-- The number nearest to a fraction; a zero has the sign that is given. -/
def nearest (zeroSign : Bool) (top : Int) (bottom : Nat) : Binary64 :=
  ofFraction (if top = 0 then zeroSign else top < 0) top.natAbs bottom

/-- The sum of two numbers. -/
def add (x y : Binary64) : Binary64 :=
  match x.magnitude, y.magnitude with
  | .nan, _ | _, .nan => nan
  | .infinite, .infinite => if x.negative = y.negative then x else nan
  | .infinite, _ => x
  | _, .infinite => y
  | _, _ =>
    match x.fraction?, y.fraction? with
    | some (a, b), some (c, d) => nearest (x.negative && y.negative) (a * d + c * b) (b * d)
    | _, _ => nan

/-- The difference of two numbers. -/
def sub (x y : Binary64) : Binary64 :=
  add x y.negated

/-- The product of two numbers. -/
def mul (x y : Binary64) : Binary64 :=
  let negative := x.negative != y.negative
  match x.magnitude, y.magnitude with
  | .nan, _ | _, .nan => nan
  | .infinite, _ => if y.isZero then nan else infinite negative
  | _, .infinite => if x.isZero then nan else infinite negative
  | _, _ =>
    match x.fraction?, y.fraction? with
    | some (a, b), some (c, d) => nearest negative (a * c) (b * d)
    | _, _ => nan

/-- The quotient of two numbers, the second of which is no zero. -/
def quotient (x y : Binary64) : Binary64 :=
  let negative := x.negative != y.negative
  match x.magnitude, y.magnitude with
  | .nan, _ | _, .nan | .infinite, .infinite => nan
  | .infinite, _ => infinite negative
  | _, .infinite => zero negative
  | _, _ =>
    match x.fraction?, y.fraction? with
    | some (a, b), some (c, d) =>
      nearest negative (a * d * (if c < 0 then -1 else 1)) (b * c.natAbs)
    | _, _ => nan

/-- The greatest integer that is not above a number, as a number. -/
def floored (x : Binary64) : Binary64 :=
  match x.fraction? with
  | some (top, bottom) => nearest x.negative (top.fdiv bottom) 1
  | none => x

/-- What is left of a number after a division that cuts off, with the sign of the number. -/
def cutRemainder (x y : Binary64) : Binary64 :=
  match x.fraction?, y.fraction? with
  | some (a, b), some (c, d) => nearest x.negative ((a * d).tmod (c * b)) (b * d)
  | some _, none => if y.magnitude = .infinite then x else nan
  | none, _ => nan

/-- The quotient of two numbers brought to an integer below, and the remainder, which has the sign of
the divisor; the divisor is no zero. -/
def divideWithRemainder (x y : Binary64) : Binary64 × Binary64 :=
  let rest := cutRemainder x y
  let exact := quotient (sub x rest) y
  let (rest, exact) :=
    if rest.isZero then (zero y.negative, exact)
    else if rest.magnitude ≠ .nan && y.negative != rest.negative then
      (add rest y, sub exact (ofInt 1))
    else (rest, exact)
  if exact.isZero then (zero (x.negative != y.negative), rest)
  else
    let below := exact.floored
    let gap := sub exact below
    let half := ofFraction false 1 2
    let isGreater := (NumberValue.ofBinary64 half).less (NumberValue.ofBinary64 gap)
    (if isGreater then add below (ofInt 1) else below, rest)

/-- A power with an integer for its exponent, which is not too great. -/
def powerOfInteger (x : Binary64) (n : Int) : Option Binary64 :=
  match x.fraction? with
  | some (top, bottom) =>
    if Arithmetic.greatestExponent < n.natAbs then none
    else
      let k := n.natAbs
      let negative := x.negative && n % 2 ≠ 0
      let above := (Arithmetic.power top k k).natAbs
      let below := (Arithmetic.power bottom k k).natAbs
      some (if n < 0 then ofFraction negative below above else ofFraction negative above below)
  | none => none

end Binary64

end FilterAlgebra
