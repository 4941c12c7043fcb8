/-!
# Clipping of texts

Long names are cut in messages. A limit counts bytes of the usual encoding of
text; where it falls within a character, a mark stands for what is left of it.
-/

set_option autoImplicit false

namespace FilterAlgebra

/-- The mark for a character that was cut. -/
def cutMark : Char := '\ufffd'

/-- As many characters as fit into a number of bytes, and a mark if one more begins within it. -/
def clipChars : Nat → List Char → List Char
  | _, [] => []
  | limit, c :: rest =>
    if c.utf8Size ≤ limit then c :: clipChars (limit - c.utf8Size) rest
    else if limit = 0 then []
    else [cutMark]

/-- A text cut to a number of bytes. -/
def clip (limit : Nat) (s : String) : String :=
  String.ofList (clipChars limit s.toList)

end FilterAlgebra
