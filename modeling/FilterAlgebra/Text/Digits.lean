/-!
# Decimal digits and blanks of all scripts

Numbers may be written in the digits of any script and with any blanks around
them. Before a number is read, its digits are brought to the ten digits of ASCII
and its blanks to the plain space; a character that is neither and lies outside
of ASCII cannot stand in a number. The table holds the zero of each script, by the
fourteenth version of the character standard; the other nine digits follow it.
-/

set_option autoImplicit false

namespace FilterAlgebra

/-- The zeros of all scripts in ascending order. -/
def scriptZeros : List Nat :=
  [0x30, 0x660, 0x6f0, 0x7c0, 0x966, 0x9e6, 0xa66, 0xae6, 0xb66, 0xbe6, 0xc66, 0xce6, 0xd66, 0xde6,
   0xe50, 0xed0, 0xf20, 0x1040, 0x1090, 0x17e0, 0x1810, 0x1946, 0x19d0, 0x1a80, 0x1a90, 0x1b50,
   0x1bb0, 0x1c40, 0x1c50, 0xa620, 0xa8d0, 0xa900, 0xa9d0, 0xa9f0, 0xaa50, 0xabf0, 0xff10, 0x104a0,
   0x10d30, 0x11066, 0x110f0, 0x11136, 0x111d0, 0x112f0, 0x11450, 0x114d0, 0x11650, 0x116c0,
   0x11730, 0x118e0, 0x11950, 0x11c50, 0x11d50, 0x11da0, 0x16a60, 0x16ac0, 0x16b50, 0x1d7ce,
   0x1d7d8, 0x1d7e2, 0x1d7ec, 0x1d7f6, 0x1e140, 0x1e2f0, 0x1e950, 0x1fbf0]

/-- The value of a decimal digit of any script. -/
def decimalDigit? (c : Char) : Option Nat :=
  (scriptZeros.find? fun start => start ≤ c.toNat && c.toNat < start + 10).map (c.toNat - ·)

/-- Blanks are the spaces and line ends of all scripts and the separators among the controls. -/
def isBlank (c : Char) : Bool :=
  let n := c.toNat
  (0x9 ≤ n && n ≤ 0xd) || (0x1c ≤ n && n ≤ 0x20) || n == 0x85 || n == 0xa0 || n == 0x1680 ||
    (0x2000 ≤ n && n ≤ 0x200a) || n == 0x2028 || n == 0x2029 || n == 0x202f || n == 0x205f ||
    n == 0x3000

/-- Blanks that are white space: all but the separators among the controls. -/
def isSpace (c : Char) : Bool :=
  isBlank c && !(0x1c ≤ c.toNat && c.toNat ≤ 0x1f)

/-- Blanks among the characters of ASCII; the separators among the controls are none. -/
def isPlainBlank (c : Char) : Bool :=
  c == ' ' || (0x9 ≤ c.toNat && c.toNat ≤ 0xd)

/-- A character brought to ASCII, as it is read in a number; what cannot stand in a number becomes
a question mark, which can neither. -/
def plainNumeralChar (c : Char) : Char :=
  if c.toNat ≤ 0x7f then c
  else if isBlank c then ' '
  else ((decimalDigit? c).map Nat.digitChar).getD '?'

/-- A list without the leading and trailing elements that satisfy `p`. -/
def trimBy (p : Char → Bool) (chars : List Char) : List Char :=
  ((chars.dropWhile p).reverse.dropWhile p).reverse

end FilterAlgebra
