import FilterAlgebra.Text.Printable

/-!
# Inspection of text and bytes

The inspection form of a text is the text between two marks, with everything a
reader could not see or could mistake for a mark written as an escape. The marks
are apostrophes, unless the text holds an apostrophe and no double quote.
Bytes are inspected in the same way, one character a byte, after the letter `b`.
-/

set_option autoImplicit false

namespace FilterAlgebra.Inspection

/-- The hexadecimal digits of `n`, filled up with zeros to `width` digits. -/
def hexPadded (width n : Nat) : List Char :=
  let digits := Nat.toDigits 16 n
  List.replicate (width - digits.length) '0' ++ digits

/-- The mark that delimits a text: an apostrophe, or a double quote when that saves an escape. -/
def markFor (chars : List Char) : Char :=
  if chars.contains '\'' && !chars.contains '"' then '"' else '\''

/-- The escape of a character by its number, as short as the number allows. -/
def numericEscape (n : Nat) : List Char :=
  if n < 0x100 then '\\' :: 'x' :: hexPadded 2 n
  else if n < 0x10000 then '\\' :: 'u' :: hexPadded 4 n
  else '\\' :: 'U' :: hexPadded 8 n

/-- The form of one character inside a text delimited by `mark`. -/
def escapeChar (mark c : Char) : List Char :=
  if c = '\\' || c = mark then ['\\', c]
  else if c = '\n' then ['\\', 'n']
  else if c = '\r' then ['\\', 'r']
  else if c = '\t' then ['\\', 't']
  else if isPrintable c then [c]
  else numericEscape c.toNat

/-- The inspection form of a text. -/
def ofString (s : String) : String :=
  let chars := s.toList
  let mark := markFor chars
  String.ofList (mark :: chars.flatMap (escapeChar mark) ++ [mark])

/-- The form of one byte inside bytes delimited by `mark`: outside of ASCII always by its number. -/
def escapeByte (mark : Char) (b : UInt8) : List Char :=
  if b.toNat < 0x80 then escapeChar mark (Char.ofNat b.toNat) else numericEscape b.toNat

/-- The inspection form of a sequence of bytes. -/
def ofBytes (bytes : List UInt8) : String :=
  let mark := markFor (bytes.map fun b => Char.ofNat b.toNat)
  String.ofList ('b' :: mark :: bytes.flatMap (escapeByte mark) ++ [mark])

end FilterAlgebra.Inspection
