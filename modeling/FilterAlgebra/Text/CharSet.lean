import FilterAlgebra.Text.Category

/-!
# Sets of characters

A set of characters is put together from ranges, categories and forms of letters. It can
be closed under the forms of letters, so that a letter is in it if any form of the letter
is.
-/

set_option autoImplicit false

namespace FilterAlgebra

/-- A set of characters. -/
inductive CharSet where
  /-- The characters of some closed ranges. -/
  | within (ranges : List (Nat × Nat))
  | ofCategories (categories : List Category)
  | capitals
  | smalls
  /-- The characters that have a form in a set. -/
  | forms (s : CharSet)
  | union (s t : CharSet)
  | inter (s t : CharSet)
  | complement (s : CharSet)

namespace CharSet

/-- The forms of letters with more than the usual ones. -/
def unusualForms : List (List Nat) :=
  [[0x4b, 0x6b, 0x212a], [0x53, 0x73, 0x17f], [0xb5, 0x39c, 0x3bc], [0xc5, 0xe5, 0x212b], [0xdf, 0x1e9e],
   [0x131], [0x345, 0x399, 0x3b9, 0x1fbe], [0x392, 0x3b2, 0x3d0], [0x395, 0x3b5, 0x3f5],
   [0x398, 0x3b8, 0x3d1, 0x3f4], [0x39a, 0x3ba, 0x3f0], [0x3a0, 0x3c0, 0x3d6], [0x3a1, 0x3c1, 0x3f1],
   [0x3a3, 0x3c2, 0x3c3], [0x3a6, 0x3c6, 0x3d5], [0x3a9, 0x3c9, 0x2126], [0x412, 0x432, 0x1c80],
   [0x414, 0x434, 0x1c81], [0x41e, 0x43e, 0x1c82], [0x421, 0x441, 0x1c83], [0x422, 0x442, 0x1c84, 0x1c85],
   [0x42a, 0x44a, 0x1c86], [0x462, 0x463, 0x1c87], [0x1c88, 0xa64a, 0xa64b], [0x1e60, 0x1e61, 0x1e9b]]

/-- The forms of a letter that are single letters, as its small, capital and initial forms and their forms
in turn. -/
def usualForms (c : Char) : List Char :=
  let next := fun c =>
    ([LetterCase.small c, LetterCase.capital c, LetterCase.initial c].filterMap fun letters =>
    match letters with
    | [letter] => some letter
    | _ => none)
  c :: next c ++ (next c).flatMap next

/-- All forms of a letter. -/
def formsOf (c : Char) : List Char :=
  match unusualForms.find? (·.contains c.toNat) with
  | some letters => letters.map Char.ofNat
  | none => usualForms c

/-- Whether a character is in a set. -/
def contains : CharSet → Char → Bool
  | within ranges, c => LetterCase.isWithin ranges c
  | ofCategories categories, c => categories.contains (Category.ofChar c)
  | capitals, c => LetterCase.isCapital c
  | smalls, c => LetterCase.isSmall c
  | forms s, c => (formsOf c).any s.contains
  | union s t, c => s.contains c || t.contains c
  | inter s t, c => s.contains c && t.contains c
  | complement s, c => !s.contains c

/-- The set of no characters. -/
def empty : CharSet :=
  within []

/-- The set of one character. -/
def single (c : Char) : CharSet :=
  within [(c.toNat, c.toNat)]

/-- A range of the characters of ASCII. -/
def asciiDigits : List (Nat × Nat) :=
  [(0x30, 0x39)]

@[inherit_doc asciiDigits] def asciiCapitals : List (Nat × Nat) :=
  [(0x41, 0x5a)]

@[inherit_doc asciiDigits] def asciiSmalls : List (Nat × Nat) :=
  [(0x61, 0x7a)]

/-- The decimal digits of all scripts. -/
def digits : CharSet :=
  ofCategories [.decimalDigit]

/-- White space. -/
def spaces : CharSet :=
  within [(0x9, 0xd), (0x20, 0x20), (0x85, 0x85), (0xa0, 0xa0), (0x1680, 0x1680), (0x2000, 0x200a),
    (0x2028, 0x2029), (0x202f, 0x202f), (0x205f, 0x205f), (0x3000, 0x3000)]

/-- The letters that are numbers or symbols by their category. -/
def circledLetters : List (Nat × Nat) :=
  [(0x24b6, 0x24e9), (0x1f130, 0x1f149), (0x1f150, 0x1f169), (0x1f170, 0x1f189)]

/-- What can stand in a word: letters, marks, digits, connectors, and what joins letters. -/
def wordCharacters : CharSet :=
  union (within (asciiDigits ++ asciiCapitals ++ asciiSmalls ++ [(0x5f, 0x5f)])) <|
    union (within ((0x200c, 0x200d) :: circledLetters)) <|
      ofCategories (Category.named "l" ++ Category.named "m" ++ [.decimalDigit, .letterNumber, .connector])

/-- Letters of all kinds. -/
def alphabetic : CharSet :=
  union (within circledLetters) (ofCategories (Category.named "l" ++ [.letterNumber]))

/-- Digits of ASCII. -/
def plainDigits : CharSet :=
  within asciiDigits

/-- White space of ASCII. -/
def plainSpaces : CharSet :=
  within [(0x9, 0xd), (0x20, 0x20)]

/-- What can stand in a word of ASCII. -/
def plainWordCharacters : CharSet :=
  within (asciiDigits ++ asciiCapitals ++ asciiSmalls ++ [(0x5f, 0x5f)])

/-- The sets of characters of ASCII that have a name. -/
def ofAscii? (name : String) : Option CharSet :=
  let letters := asciiCapitals ++ asciiSmalls
  match name with
  | "alnum" => some (within (asciiDigits ++ letters))
  | "alpha" => some (within letters)
  | "ascii" => some (within [(0, 0x7f)])
  | "blank" => some (within [(0x9, 0x9), (0x20, 0x20)])
  | "cntrl" => some (within [(0, 0x1f), (0x7f, 0x7f)])
  | "digit" => some (within asciiDigits)
  | "graph" => some (within [(0x21, 0x7e)])
  | "lower" => some (within asciiSmalls)
  | "print" => some (within [(0x20, 0x7e)])
  | "punct" => some (within [(0x21, 0x2f), (0x3a, 0x40), (0x5b, 0x60), (0x7b, 0x7e)])
  | "space" => some plainSpaces
  | "upper" => some (within asciiCapitals)
  | "word" => some plainWordCharacters
  | "xdigit" => some (within [(0x30, 0x39), (0x41, 0x46), (0x61, 0x66)])
  | _ => none

/-- The characters of some scripts, each under its short and its long name. -/
def scripts : List (String × String × List (Nat × Nat)) :=
  [("latn", "latin",
    [(0x41, 0x5a), (0x61, 0x7a), (0xaa, 0xaa), (0xba, 0xba), (0xc0, 0xd6), (0xd8, 0xf6), (0xf8, 0x2b8),
     (0x2e0, 0x2e4), (0x1d00, 0x1d25), (0x1d2c, 0x1d5c), (0x1d62, 0x1d65), (0x1d6b, 0x1d77), (0x1d79, 0x1dbe),
     (0x1e00, 0x1eff), (0x2071, 0x2071), (0x207f, 0x207f), (0x2090, 0x209c), (0x212a, 0x212b),
     (0x2132, 0x2132), (0x214e, 0x214e), (0x2160, 0x2188), (0x2c60, 0x2c7f), (0xa722, 0xa787),
     (0xa78b, 0xa7ca), (0xa7d0, 0xa7d1), (0xa7d3, 0xa7d3), (0xa7d5, 0xa7d9), (0xa7f2, 0xa7ff),
     (0xab30, 0xab5a), (0xab5c, 0xab64), (0xab66, 0xab69), (0xfb00, 0xfb06), (0xff21, 0xff3a),
     (0xff41, 0xff5a), (0x10780, 0x10785), (0x10787, 0x107b0), (0x107b2, 0x107ba), (0x1df00, 0x1df1e)]),
   ("grek", "greek",
    [(0x370, 0x373), (0x375, 0x377), (0x37a, 0x37d), (0x37f, 0x37f), (0x384, 0x384), (0x386, 0x386),
     (0x388, 0x38a), (0x38c, 0x38c), (0x38e, 0x3a1), (0x3a3, 0x3e1), (0x3f0, 0x3ff), (0x1d26, 0x1d2a),
     (0x1d5d, 0x1d61), (0x1d66, 0x1d6a), (0x1dbf, 0x1dbf), (0x1f00, 0x1f15), (0x1f18, 0x1f1d),
     (0x1f20, 0x1f45), (0x1f48, 0x1f4d), (0x1f50, 0x1f57), (0x1f59, 0x1f59), (0x1f5b, 0x1f5b),
     (0x1f5d, 0x1f5d), (0x1f5f, 0x1f7d), (0x1f80, 0x1fb4), (0x1fb6, 0x1fc4), (0x1fc6, 0x1fd3),
     (0x1fd6, 0x1fdb), (0x1fdd, 0x1fef), (0x1ff2, 0x1ff4), (0x1ff6, 0x1ffe), (0x2126, 0x2126),
     (0xab65, 0xab65), (0x10140, 0x1018e), (0x101a0, 0x101a0), (0x1d200, 0x1d245)]),
   ("cyrl", "cyrillic",
    [(0x400, 0x484), (0x487, 0x52f), (0x1c80, 0x1c88), (0x1d2b, 0x1d2b), (0x1d78, 0x1d78), (0x2de0, 0x2dff),
     (0xa640, 0xa69f), (0xfe2e, 0xfe2f)]),
   ("hani", "han",
    [(0x2e80, 0x2e99), (0x2e9b, 0x2ef3), (0x2f00, 0x2fd5), (0x3005, 0x3005), (0x3007, 0x3007),
     (0x3021, 0x3029), (0x3038, 0x303b), (0x3400, 0x4dbf), (0x4e00, 0x9fff), (0xf900, 0xfa6d),
     (0xfa70, 0xfad9), (0x16fe2, 0x16fe3), (0x16ff0, 0x16ff1), (0x20000, 0x2a6df), (0x2a700, 0x2b739),
     (0x2b740, 0x2b81d), (0x2b820, 0x2cea1), (0x2ceb0, 0x2ebe0), (0x2f800, 0x2fa1d), (0x30000, 0x3134a),
     (0x31350, 0x323af)]),
   ("hira", "hiragana", [(0x3041, 0x3096), (0x309d, 0x309f), (0x1b001, 0x1b11f), (0x1b150, 0x1b152),
     (0x1f200, 0x1f200)]),
   ("kana", "katakana", [(0x30a1, 0x30fa), (0x30fd, 0x30ff), (0x31f0, 0x31ff), (0x32d0, 0x32fe),
     (0x3300, 0x3357), (0xff66, 0xff6f), (0xff71, 0xff9d), (0x1b000, 0x1b000), (0x1b120, 0x1b122),
     (0x1b164, 0x1b167)]),
   ("hang", "hangul", [(0x1100, 0x11ff), (0x302e, 0x302f), (0x3131, 0x318e), (0x3200, 0x321e),
     (0x3260, 0x327e), (0xa960, 0xa97c), (0xac00, 0xd7a3), (0xd7b0, 0xd7c6), (0xd7cb, 0xd7fb),
     (0xffa0, 0xffbe), (0xffc2, 0xffc7), (0xffca, 0xffcf), (0xffd2, 0xffd7), (0xffda, 0xffdc)]),
   ("hebr", "hebrew", [(0x591, 0x5c7), (0x5d0, 0x5ea), (0x5ef, 0x5f4), (0xfb1d, 0xfb36), (0xfb38, 0xfb3c),
     (0xfb3e, 0xfb3e), (0xfb40, 0xfb41), (0xfb43, 0xfb44), (0xfb46, 0xfb4f)]),
   ("arab", "arabic", [(0x600, 0x604), (0x606, 0x60b), (0x60d, 0x61a), (0x61c, 0x61e), (0x620, 0x63f),
     (0x641, 0x64a), (0x656, 0x66f), (0x671, 0x6dc), (0x6de, 0x6ff), (0x750, 0x77f), (0x870, 0x88e),
     (0x890, 0x891), (0x898, 0x8e1), (0x8e3, 0x8ff), (0xfb50, 0xfbc2), (0xfbd3, 0xfd3d), (0xfd40, 0xfd8f),
     (0xfd92, 0xfdc7), (0xfdcf, 0xfdcf), (0xfdf0, 0xfdff), (0xfe70, 0xfe74), (0xfe76, 0xfefc)]),
   ("deva", "devanagari", [(0x900, 0x950), (0x955, 0x963), (0x966, 0x97f), (0xa8e0, 0xa8ff)]),
   ("thai", "thai", [(0xe01, 0xe3a), (0xe40, 0xe5b)]),
   ("armn", "armenian", [(0x531, 0x556), (0x559, 0x58a), (0x58d, 0x58f), (0xfb13, 0xfb17)])]

/-- A name in small letters and without separators; a word in front of it that only says that it is a
property does not count. -/
def plainName (name : String) : String :=
  let chars := (name.toList.filter fun c => c.toNat < 0x80 && c ≠ ' ' && c ≠ '_' && c ≠ '-').map Char.toLower
  let start := (name.toList.take 2).map Char.toLower
  String.ofList (if start = ['i', 's'] && chars ≠ ['i', 's', 'c'] then chars.drop 2 else chars)

/-- The set of a script. -/
def ofScript? (name : String) : Option CharSet :=
  (scripts.find? fun (short, long, _) => short = name || long = name).map fun (_, _, ranges) => within ranges

/-- The set of a category or of a group of them. -/
def ofCategory? (name : String) : Option CharSet :=
  match name, Category.named name with
  | "any", _ => some (complement empty)
  | "ascii", _ => some (within [(0, 0x7f)])
  | "assigned", _ => some (complement (ofCategories [.unassigned]))
  | _, [] => none
  | _, categories => some (ofCategories categories)

/-- The set of characters with a property of a name. -/
def ofProperty? (name : String) : Option CharSet :=
  let name := plainName name
  match name with
  | "alphabetic" | "alpha" => some alphabetic
  | "uppercase" | "upper" => some capitals
  | "lowercase" | "lower" => some smalls
  | "whitespace" | "wspace" | "space" => some spaces
  | "asciihexdigit" | "ahex" => some (within [(0x30, 0x39), (0x41, 0x46), (0x61, 0x66)])
  | name => (ofCategory? name).or (ofScript? name)

/-- The set of characters for which a property of a name has a certain value. The outer option is empty if
there is no such property, and the inner one if it has no such value. -/
def ofPropertyValue? (name value : String) : Option (Option CharSet) :=
  match plainName name with
  | "generalcategory" | "gc" => some (ofCategory? (plainName value))
  | "script" | "sc" | "scriptextensions" | "scx" => some (ofScript? (plainName value))
  | _ => none

end CharSet

end FilterAlgebra
