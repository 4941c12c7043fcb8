import FilterAlgebra.Number.Exact
import FilterAlgebra.Text.Layout

/-!
# Notations of numbers

A finite number is a coefficient times a power of ten. It is written to a number of
places after the point, or to a number of digits with an exponent, or to a number of
digits in whichever of the two ways suits its size. Where digits are given up, the
number is rounded to the nearest, a tie to the even one.

The digits that a power of ten appends are only written and never computed, so a
great exponent costs no more than its zeros.
-/

set_option autoImplicit false

namespace FilterAlgebra.Notation

/-- The digits of a multiple of a power of ten: the one nearest to a number. -/
def digitsOnGrid (c : Nat) (e grid : Int) : List Char :=
  let digits := Nat.toDigits 10 c
  if c = 0 then digits
  else if grid ≤ e then digits ++ List.replicate (e - grid).toNat '0'
  else if digits.length < (grid - e).toNat then ['0']
  else Nat.toDigits 10 (Binary64.roundQuotient c (tenTo (grid - e).toNat))

/-- Some digits, and how many of them stand before the point: the first one stands for
a power of ten, as if there were more zeros in front of them or behind them. -/
structure Placed where
  digits : List Char
  place : Int

/-- A number rounded to a positive number of digits. Rounding up may carry into a new
digit, and then the last one, a zero, is dropped. -/
def significant (length : Nat) (c : Nat) (e : Int) : Placed :=
  if c = 0 then ⟨List.replicate length '0', 1⟩
  else
    let grid := e + (Nat.toDigits 10 c).length - length
    let digits := digitsOnGrid c e grid
    ⟨digits.take length, grid + digits.length⟩

/-- A fraction behind its point. The point is left out where nothing follows it,
unless it is always shown. -/
def pointed (always : Bool) (fraction : List Char) : List Char :=
  if fraction.isEmpty && !always then [] else '.' :: fraction

/-- The last digits of a number set behind the point. At least one digit stands in front of it. -/
def positional (always : Bool) (places : Nat) (digits : List Char) : NumberParts :=
  let padded := List.replicate (places + 1 - digits.length) '0' ++ digits
  let front := padded.length - places
  ⟨false, [], padded.take front, pointed always (padded.drop front)⟩

/-- A number to so many places after the point. -/
def fixed (always : Bool) (places c : Nat) (e : Int) : NumberParts :=
  positional always places (digitsOnGrid c e (-places))

/-- Digits with one of them in front of the point, and with an exponent. -/
def scaled (always : Bool) (exponent : List Char) (digits : List Char) : NumberParts :=
  ⟨false, [], digits.take 1, pointed always (digits.drop 1) ++ exponent⟩

/-- Digits without the zeros at their end. -/
def trimmed (digits : List Char) : List Char :=
  (digits.reverse.dropWhile (· == '0')).reverse

/-- Digits with a point among them or, where they lie all on one side of it, with zeros
up to it. -/
def placed (always : Bool) (p : Placed) : NumberParts :=
  let digits := p.digits ++ List.replicate (p.place - p.digits.length).toNat '0'
  positional always (digits.length - p.place).toNat digits

end FilterAlgebra.Notation
