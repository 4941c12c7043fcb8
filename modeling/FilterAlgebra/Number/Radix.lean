import FilterAlgebra.Number.Numeral

/-!
# Numerals of any base

An integer can be read in any base from two to thirty-six; letters of either case
follow the ten digits. In the bases two, eight and sixteen a zero and a letter may come
first, and where the base is left open they tell it. The bound on digits does not
hold for bases that are powers of two.
-/

set_option autoImplicit false

namespace FilterAlgebra.Radix

/-- The value of a digit among the digits and letters of ASCII. -/
def digit? (c : Char) : Option Nat :=
  if c.isDigit then some (c.toNat - '0'.toNat)
  else if c.isLower then some (c.toNat - 'a'.toNat + 10)
  else if c.isUpper then some (c.toNat - 'A'.toNat + 10)
  else none

/-- Whether a character is a digit of a base. -/
def isDigitOf (base : Nat) (c : Char) : Bool :=
  (digit? c).any (· < base)

/-- The base that a letter after a leading zero tells. -/
def baseOfLetter? : Char → Option Nat
  | 'x' | 'X' => some 16
  | 'o' | 'O' => some 8
  | 'b' | 'B' => some 2
  | _ => none

/-- Without a leading zero and its letter, and without the one underscore that may follow them. -/
def dropMark (base : Nat) : List Char → List Char
  | '0' :: c :: rest =>
    if baseOfLetter? c = some base then
      match rest with
      | '_' :: rest => rest
      | rest => rest
    else '0' :: c :: rest
  | chars => chars

/-- The base that a numeral tells by its own beginning. -/
def toldBase : List Char → Nat
  | '0' :: c :: _ => (baseOfLetter? c).getD 10
  | _ => 10

/-- The digits of a run in which single underscores may stand between digits. -/
def joinDigits (base : Nat) : List Char → Option (List Nat)
  | [] => none
  | [c] => if isDigitOf base c then (fun d => [d]) <$> digit? c else none
  | c :: '_' :: rest => if isDigitOf base c then joined (digit? c) (joinDigits base rest) else none
  | c :: rest => if isDigitOf base c then joined (digit? c) (joinDigits base rest) else none
where
  /-- A digit before others. -/
  joined (d? : Option Nat) (rest? : Option (List Nat)) : Option (List Nat) := do
    return (← d?) :: (← rest?)

/-- The number that digits of a base stand for. -/
def ofDigits (base : Nat) (digits : List Nat) : Nat :=
  digits.foldl (fun n d => base * n + d) 0

/-- Whether a base is a power of two. -/
def isBinary (base : Nat) : Bool :=
  [2, 4, 8, 16, 32].contains base

/-- Reads an integer in a base from the characters of ASCII; base zero leaves the base to the numeral,
which then has no leading zeros. -/
def readChars (base : Nat) (chars : List Char) : Except Numeral.Unreadable Int := do
  let (negative, body) := Numeral.readSign (chars.dropWhile isPlainBlank)
  let told := if base = 0 then toldBase body else base
  let body := dropMark told body
  let run := body.takeWhile fun c => isDigitOf told c || c == '_'
  match joinDigits told run with
  | none => .error .malformed
  | some digits =>
    if !isBinary told && Numeral.maxDigits < digits.length then .error (.tooManyDigits digits.length)
    else
      let n := ofDigits told digits
      if !(body.drop run.length).all isPlainBlank then .error .malformed
      else if base = 0 && told = 10 && n ≠ 0 && digits.head? = some 0 then .error .malformed
      else return if negative then -(n : Int) else n

/-- Reads an integer in a base, written in the digits of any script. -/
def read (base : Nat) (s : String) : Except Numeral.Unreadable Int :=
  readChars base (s.toList.map plainNumeralChar)

end FilterAlgebra.Radix
