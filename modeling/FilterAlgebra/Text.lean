import FilterAlgebra.Text.Inspection

/-!
# Texts

Most texts are plain. Two further forms carry a text and a presentation of their
own: a custom text shows a fixed label wherever it is shown, and a tag is one of
two named texts. All three count as texts wherever a text is asked for, and what
is asked for is their content.
-/

set_option autoImplicit false

namespace FilterAlgebra

/-- The named texts. -/
inductive Tag where
  | a
  | q
  deriving DecidableEq

/-- The name of a tag. -/
def Tag.name : Tag → String
  | .a => "A"
  | .q => "Q"

/-- The text a tag stands for. -/
def Tag.content : Tag → String
  | .a => "alpha"
  | .q => "it's"

/-- The tag of a name. -/
def Tag.ofName? : String → Option Tag
  | "A" => some .a
  | "Q" => some .q
  | _ => none

/-- A text in one of its three forms. -/
inductive Text where
  | plain (s : String)
  | custom (s : String)
  | tag (t : Tag)
  deriving DecidableEq

namespace Text

/-- The label under which every custom text is shown. -/
def customLabel : String := "<MyStr>"

/-- The text itself, whatever its form. -/
def content : Text → String
  | plain s | custom s => s
  | tag t => t.content

/-- The text as it appears when it is inserted into another text. -/
def display : Text → String
  | plain s => s
  | custom _ => customLabel
  | tag t => t.content

/-- The inspection form. -/
def inspect : Text → String
  | plain s => Inspection.ofString s
  | custom _ => customLabel
  | tag t => "<Tag." ++ t.name ++ ": " ++ Inspection.ofString t.content ++ ">"

/-- The name of the class of a text. -/
def className : Text → String
  | plain _ => "str"
  | custom _ => "MyStr"
  | tag _ => "Tag"

end Text

end FilterAlgebra
