import FilterAlgebra.Number.Power
import FilterAlgebra.Text.Digits

/-!
# Numerals of integers

An integer is written in decimal with an optional minus sign, no leading zero
and no sign on zero. Decimal numerals are only written up to 4300 digits; the
hexadecimal form has no such bound. What is read may have blanks around it, a
sign of either kind, leading zeros, and single underscores between its digits.
-/

set_option autoImplicit false

namespace FilterAlgebra.Numeral

/-- The greatest number of digits of a decimal numeral that is still written,
the sign not counted. -/
def maxDigits : Nat := 4300

/-- The first magnitude whose numeral would be too long. -/
def bound : Nat := tenTo maxDigits

/-- The characters of an integer written in the given base: a sign if it is
negative, then its digits. -/
def chars (base : Nat) (n : Int) : List Char :=
  match n with
  | .ofNat m => Nat.toDigits base m
  | .negSucc m => '-' :: Nat.toDigits base (m + 1)

/-- The decimal numeral of an integer. -/
def decimal (n : Int) : String :=
  String.ofList (chars 10 n)

/-- The decimal numeral of an integer, or none where it would have more than `maxDigits` digits. -/
def decimal? (n : Int) : Option String :=
  if n.natAbs < bound then some (decimal n) else none

/-- The hexadecimal form of an integer: the sign, `0x`, then the digits. -/
def hexadecimal (n : Int) : String :=
  match n with
  | .ofNat m => String.ofList ('0' :: 'x' :: Nat.toDigits 16 m)
  | .negSucc m => String.ofList ('-' :: '0' :: 'x' :: Nat.toDigits 16 (m + 1))

/-- The number that a run of digits stands for. -/
def natOfDigits (digits : List Char) : Nat :=
  digits.foldl (fun n c => 10 * n + (c.toNat - '0'.toNat)) 0

/-- Reads an optional sign. -/
def readSign : List Char → Bool × List Char
  | '-' :: rest => (true, rest)
  | '+' :: rest => (false, rest)
  | chars => (false, chars)

/-- The digits of a run in which single underscores may stand between digits. -/
def joinDigits : List Char → Option (List Char)
  | [] => none
  | [c] => if c.isDigit then some [c] else none
  | c :: '_' :: rest => if c.isDigit then (c :: ·) <$> joinDigits rest else none
  | c :: rest => if c.isDigit then (c :: ·) <$> joinDigits rest else none

/-- Why a text is not read as an integer. -/
inductive Unreadable where
  | malformed
  | tooManyDigits (count : Nat)
  deriving DecidableEq

/-- The integer of a sign and some digits, if there are not too many of them. -/
def ofDigits (negative : Bool) (digits : List Char) : Except Unreadable Int :=
  if maxDigits < digits.length then .error (.tooManyDigits digits.length)
  else
    let n : Int := natOfDigits digits
    .ok (if negative then -n else n)

/-- Reads an integer from the characters of ASCII. The digits are counted
before the end is looked at. -/
def readChars (chars : List Char) : Except Unreadable Int := do
  let (negative, body) := readSign (chars.dropWhile isPlainBlank)
  let run := body.takeWhile fun c => c.isDigit || c == '_'
  match joinDigits run with
  | none => .error .malformed
  | some digits =>
    let n ← ofDigits negative digits
    if (body.drop run.length).all isPlainBlank then return n else .error .malformed

/-- Reads an integer written in the digits of any script. -/
def read (s : String) : Except Unreadable Int :=
  readChars (s.toList.map plainNumeralChar)

end FilterAlgebra.Numeral
