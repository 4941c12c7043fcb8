/-!
# Outlines

An outline is a text with one part on each line. A block opens on one line and closes
on another, and its parts stand between, four blanks further in, a comma after each.
A block without parts stands on one line.
-/

set_option autoImplicit false

namespace FilterAlgebra

/-- Nested text with one part on each line. -/
inductive Outline where
  | word (content : String)
  | labelled (label : String) (part : Outline)
  | block (opening closing : String) (parts : List Outline)

namespace Outline

/-- A named block of labelled parts. -/
def record (name : String) (parts : List (String × Outline)) : Outline :=
  block (name ++ " \x7b") "\x7d" (parts.map fun (label, part) => labelled label part)

/-- A part in a wrapping with a name. -/
def wrapped (name : String) (part : Outline) : Outline :=
  block (name ++ "(") ")" [part]

/-- Parts in a row. -/
def row (parts : List Outline) : Outline :=
  block "[" "]" parts

/-- The blanks before the lines of a depth. -/
def margin (depth : Nat) : String :=
  "".pushn ' ' (4 * depth)

mutual

/-- The text of an outline whose first line stands after a margin of the given depth. -/
def text (depth : Nat) : Outline → String
  | word content => content
  | labelled label part => label ++ ": " ++ text depth part
  | block opening closing [] => opening ++ closing
  | block opening closing (first :: rest) =>
    opening ++ "\n" ++ textOfParts (depth + 1) (first :: rest) ++ margin depth ++ closing

/-- The lines of the parts of a block. -/
def textOfParts (depth : Nat) : List Outline → String
  | [] => ""
  | part :: rest => margin depth ++ text depth part ++ ",\n" ++ textOfParts depth rest

end

end Outline

end FilterAlgebra
