import FilterAlgebra.Text.Inspection

/-!
# Quoting of text values

A text value stands in a query between two equal marks. A style names the mark
and says whether a mark inside the text is doubled. With doubling the end of the
text can be found again in any surrounding query; without it the text is taken
over as it is.
-/

set_option autoImplicit false

namespace FilterAlgebra

/-- The two marks that may delimit a text value. -/
inductive QuoteMark where
  | single
  | double
  deriving DecidableEq

/-- The character of a mark. -/
def QuoteMark.char : QuoteMark → Char
  | .single => '\''
  | .double => '"'

/-- How text values are delimited: by which mark, and whether marks inside are doubled. -/
structure QuoteStyle where
  mark : QuoteMark := .single
  doubled : Bool := false
  deriving DecidableEq

namespace QuoteStyle

/-- Every occurrence of `mark` is written twice, every other character once. -/
def doubleMarks (mark : Char) : List Char → List Char
  | [] => []
  | c :: rest => if c = mark then mark :: mark :: doubleMarks mark rest else c :: doubleMarks mark rest

/-- What stands between the marks for a text. -/
def body (style : QuoteStyle) (chars : List Char) : List Char :=
  if style.doubled then doubleMarks style.mark.char chars else chars

/-- The characters of a quoted text. -/
def quoteChars (style : QuoteStyle) (chars : List Char) : List Char :=
  style.mark.char :: (style.body chars ++ [style.mark.char])

/-- The quoted form of a text. -/
def quote (style : QuoteStyle) (s : String) : String :=
  String.ofList (style.quoteChars s.toList)

/-- The option that names the mark. -/
def markOption : String := "quote_char"

/-- The option that says whether marks are doubled. -/
def doubledOption : String := "escape_quotes"

/-- The two settings of a style in words, with the given separator between them. -/
def settings (style : QuoteStyle) (separator : String) : String :=
  markOption ++ "=" ++ Inspection.ofString style.mark.char.toString ++ separator ++
    doubledOption ++ "=" ++ (if style.doubled then "True" else "False")

/-- A style as it is shown. -/
def display (style : QuoteStyle) : String :=
  style.settings " "

/-- The inspection form of a style. -/
def inspect (style : QuoteStyle) : String :=
  "FilterConfig(" ++ style.settings ", " ++ ")"

end QuoteStyle

end FilterAlgebra
