import FilterAlgebra.Number.Shortest

/-!
# The text of a floating-point number

The digits are the shortest that read back. They are laid out positionally, with
at least one digit on either side of the point, while the leading digit stands
for a power of ten from -4 to 15; other numbers have one digit before the point
and an exponent of at least two digits with its sign.
-/

set_option autoImplicit false

namespace FilterAlgebra.Binary64

/-- The digits of a decimal without trailing zeros. -/
def significantDigits (n : Nat) : List Char :=
  ((Nat.toDigits 10 n).reverse.dropWhile (· == '0')).reverse

/-- An exponent with its sign and at least two digits. -/
def exponentChars (e : Int) : List Char :=
  let digits := Nat.toDigits 10 e.natAbs
  (if e < 0 then '-' else '+') :: (List.replicate (2 - digits.length) '0' ++ digits)

/-- Digits laid out with the decimal point `place` digits after their start. -/
def layOut (digits : List Char) (place : Int) : List Char :=
  if place < -3 ∨ 16 < place then
    let tail := match digits.tail with
      | [] => []
      | rest => '.' :: rest
    digits.take 1 ++ tail ++ 'e' :: exponentChars (place - 1)
  else if place ≤ 0 then '0' :: '.' :: (List.replicate (-place).toNat '0' ++ digits)
  else
    let front := place.toNat
    let tail := match digits.drop front with
      | [] => ['0']
      | rest => rest
    digits.take front ++ List.replicate (front - digits.length) '0' ++ '.' :: tail

/-- The text of a magnitude. -/
def magnitudeChars (x : Binary64) : List Char :=
  match x.magnitude with
  | .nan => ['n', 'a', 'n']
  | .infinite => ['i', 'n', 'f']
  | .finite 0 _ => ['0', '.', '0']
  | .finite m q =>
    let d := (x.target m q).shortest
    layOut (significantDigits d.digits) (Shortest.digitCount d.digits + d.exponent)

/-- The text of a number. What is no number has no sign; zero keeps its sign. -/
def text (x : Binary64) : String :=
  String.ofList (if x.negative && x.magnitude ≠ .nan then '-' :: x.magnitudeChars else x.magnitudeChars)

end FilterAlgebra.Binary64
