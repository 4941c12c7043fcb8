/-!
# Laying out texts

A text is laid out in a place that may be wider than it is; the gap is filled on one
side, on both, or behind the sign of a number. The digits of a number can be set in
groups, counted from the end, with a separator between two groups. Where zeros fill
the gap, they are digits too and stand in groups with the others; there are as few of
them as the width allows, and no separator comes first.
-/

set_option autoImplicit false

namespace FilterAlgebra

/-- Where a text stands in a place that is wider than it is. -/
inductive Alignment where
  | left
  | right
  | center
  /-- At the right, but with the gap behind the sign. -/
  | inner
  deriving DecidableEq

namespace Alignment

/-- The alignment that a character stands for. -/
def ofChar? : Char → Option Alignment
  | '<' => some left
  | '>' => some right
  | '^' => some center
  | '=' => some inner
  | _ => none

/-- How much of a gap lies on the left of a text. What is left of it lies on the right. -/
def leftPart (gap : Nat) : Alignment → Nat
  | left => 0
  | center => gap / 2
  | right | inner => gap

end Alignment

/-- A text brought to a width, in front of which a sign and the like may stand. -/
def fillTo (alignment : Alignment) (fill : Char) (width : Nat) (front body : List Char) :
    List Char :=
  let gap := width - (front.length + body.length)
  let before := List.replicate (alignment.leftPart gap) fill
  let after := List.replicate (gap - alignment.leftPart gap) fill
  if alignment = .inner then front ++ before ++ body else before ++ front ++ body ++ after

/-- How digits are set in groups. -/
structure Grouping where
  separator : Char
  size : Nat

namespace Grouping

/-- Digits with their separators, from the last digit to the first. So many digits
are still without a separator. -/
def separate (g : Grouping) : Nat → List Char → List Char
  | _, [] => []
  | 0, c :: rest => g.separator :: c :: separate g (g.size - 1) rest
  | free + 1, c :: rest => c :: separate g free rest

/-- Digits in groups. -/
def apply (g : Grouping) (digits : List Char) : List Char :=
  (g.separate g.size digits.reverse).reverse

/-- The least number of digits that take up a width together with their separators. -/
def digitsFor (g : Grouping) (width : Nat) : Nat :=
  width - (width - 1) / (g.size + 1)

end Grouping

/-- Digits in groups, if they are to be in groups, and with zeros in front of them so
that they take up a width. -/
def setDigits (grouping : Option Grouping) (width : Nat) (digits : List Char) : List Char :=
  let count := match grouping with
    | some g => g.digitsFor width
    | none => width
  let padded := List.replicate (count - digits.length) '0' ++ digits
  match grouping with
  | some g => g.apply padded
  | none => padded

/-- A number about to be laid out. -/
structure NumberParts where
  negative : Bool
  /-- The mark of its base. -/
  mark : List Char
  /-- The digits before the point, if it has any. -/
  whole : List Char
  /-- Everything behind them. -/
  rest : List Char

namespace NumberParts

/-- A number that is not negative, split behind its first digits. -/
def ofChars (chars : List Char) : NumberParts :=
  ⟨false, [], chars.takeWhile Char.isDigit, chars.dropWhile Char.isDigit⟩

/-- A number in capital letters. -/
def capital (p : NumberParts) : NumberParts :=
  { p with
    mark := p.mark.map Char.toUpper
    whole := p.whole.map Char.toUpper
    rest := p.rest.map Char.toUpper }

/-- Whether all digits of a number are zeros. -/
def isZero (p : NumberParts) : Bool :=
  !p.whole.isEmpty &&
    (p.whole ++ p.rest.takeWhile fun c => c = '.' || c.isDigit).all fun c => c = '0' || c = '.'

end NumberParts

end FilterAlgebra
