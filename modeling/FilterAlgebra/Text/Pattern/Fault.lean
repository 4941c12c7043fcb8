/-!
# Faults of patterns

A pattern that cannot be read is shown together with its fault, and what is at fault is
underlined. A pattern of several lines is shown between dividers and with the numbers of
its lines.
-/

set_option autoImplicit false

namespace FilterAlgebra

/-- A place in a pattern; lines and columns are counted from one. -/
structure Spot where
  line : Nat := 1
  column : Nat := 1
  deriving DecidableEq

/-- The spot behind a character. -/
def Spot.past (s : Spot) (c : Char) : Spot :=
  if c = '\n' then { line := s.line + 1, column := 1 } else { s with column := s.column + 1 }

/-- A stretch of a pattern, from one spot to before another. -/
structure Span where
  start : Spot
  stop : Spot
  deriving DecidableEq

/-- Why a text is no pattern, and where. -/
structure PatternFault where
  complaint : String
  spans : List Span
  deriving DecidableEq

namespace PatternFault

/-- The lines of a pattern; a line end after the last one does not count. -/
def lines (pattern : String) : List String :=
  let pieces := pattern.splitOn "\n"
  (if pieces.getLast? = some "" then pieces.dropLast else pieces).map fun line =>
    if line.endsWith "\r" then String.ofList line.toList.dropLast else line

/-- The spans of a line, from left to right. -/
def spansOf (spans : List Span) (line : Nat) : List Span :=
  let here := spans.filter fun span => span.start.line = line && span.stop.line = line
  here.mergeSort fun a b => a.start.column ≤ b.start.column

/-- The underlining of some spans, from a column on. -/
def underline : Nat → List Span → String
  | _, [] => ""
  | column, span :: rest =>
    let blanks := span.start.column - column
    let width := max 1 (span.stop.column - span.start.column)
    String.ofList (List.replicate blanks ' ' ++ List.replicate width '^') ++
      underline (column + blanks + width) rest

/-- A line of a pattern after a margin, with what is at fault underlined. -/
def showLine (spans : List Span) (margin : Nat → String) (line : String) (number : Nat) : String :=
  let notes := match spansOf spans number with
    | [] => ""
    | here => String.ofList (List.replicate (margin number).length ' ') ++ underline 1 here ++ "\n"
  margin number ++ line ++ "\n" ++ notes

/-- A span of more than one line in words. -/
def acrossLines (span : Span) : String :=
  "on line " ++ toString span.start.line ++ " (column " ++ toString span.start.column ++ ") through line " ++
    toString span.stop.line ++ " (column " ++ toString (span.stop.column - 1) ++ ")"

/-- A pattern and its fault. -/
def shownIn (f : PatternFault) (pattern : String) : String :=
  let numbered := (lines pattern).zipIdx 1
  let isLong := pattern.contains '\n'
  let count := numbered.length + (if pattern.endsWith "\n" then 1 else 0)
  let width := if count ≤ 1 then 0 else (toString count).length
  let margin := fun (number : Nat) =>
    let shown := toString number
    if width = 0 then "    " else String.ofList (List.replicate (width - shown.length) ' ') ++ shown ++ ": "
  let body := String.join (numbered.map fun (line, number) => showLine f.spans margin line number)
  let divider := if isLong then String.ofList (List.replicate 79 '~') ++ "\n" else ""
  let across := f.spans.filter fun span => span.start.line ≠ span.stop.line
  let notes := if isLong && !across.isEmpty then "\n".intercalate (across.map acrossLines) ++ "\n" else ""
  "regex parse error:\n" ++ divider ++ body ++ divider ++ notes ++ "error: " ++ f.complaint

end PatternFault

end FilterAlgebra
