/-!
# Looking for parts of a list

A part of a list of characters or bytes can be looked for from either end, counted,
replaced, and the list can be cut where it stands. An empty part stands before every
element and at the end. Occurrences are taken from one end to the other and do not
overlap; a limit says how many of them count.
-/

set_option autoImplicit false

namespace FilterAlgebra.Search

variable {α : Type} [BEq α]

/-- The places at which a part stands, the list starting at a given place. -/
def placesFrom (part : List α) : Nat → List α → List Nat
  | i, [] => if part.isEmpty then [i] else []
  | i, a :: rest =>
    let later := placesFrom part (i + 1) rest
    if part.isPrefixOf (a :: rest) then i :: later else later

/-- The first place at which a part stands. -/
def first? (part whole : List α) : Option Nat :=
  (placesFrom part 0 whole).head?

/-- The last place at which a part stands. -/
def last? (part whole : List α) : Option Nat :=
  (placesFrom part 0 whole).getLast?

/-- The pieces between the occurrences of a part that is not empty. So many elements are still to be
passed over, and so many occurrences still count; `piece` is what was gathered, the last element first. -/
def cut (part : List α) : Nat → Nat → List α → List α → List (List α)
  | _, _, piece, [] => [piece.reverse]
  | skip + 1, limit, piece, _ :: rest => cut part skip limit piece rest
  | 0, limit, piece, a :: rest =>
    if 0 < limit && part.isPrefixOf (a :: rest) then
      piece.reverse :: cut part (part.length - 1) (limit - 1) [] rest
    else cut part 0 limit (a :: piece) rest

/-- The pieces between the occurrences of a part that is not empty, of which so many count from the
left. -/
def split (part : List α) (limit : Nat) (whole : List α) : List (List α) :=
  cut part 0 limit [] whole

/-- The pieces between the occurrences of a part that is not empty, of which so many count from the
right. -/
def splitRight (part : List α) (limit : Nat) (whole : List α) : List (List α) :=
  ((split part.reverse limit whole.reverse).map List.reverse).reverse

/-- How often a part occurs. -/
def count (part whole : List α) : Nat :=
  if part.isEmpty then whole.length + 1 else (split part whole.length whole).length - 1

/-- Every element of a list after a copy of something, of which there are so many at most. -/
def interleave (new : List α) : Nat → List α → List α
  | 0, whole => whole
  | _, [] => new
  | limit + 1, a :: rest => new ++ a :: interleave new limit rest

/-- A list with the first occurrences of a part replaced. -/
def replaceFirst (part new : List α) (limit : Nat) (whole : List α) : List α :=
  if part.isEmpty then interleave new limit whole else new.intercalate (split part limit whole)

/-- What stands before the occurrence of a part at a place, the part, and what stands after it. -/
def around (part whole : List α) (place : Nat) : List α × List α × List α :=
  (whole.take place, part, whole.drop (place + part.length))

section Runs

variable (p : α → Bool)

/-- The runs of elements that do not satisfy `p`, of which so many count from the left; what is left
after them stays together. The first number bounds the count of runs. -/
def runsWithin : Nat → Nat → List α → List (List α)
  | 0, _, _ => []
  | fuel + 1, limit, whole =>
    match whole.dropWhile p, limit with
    | [], _ => []
    | rest, 0 => [rest]
    | rest, limit + 1 =>
      rest.takeWhile (!p ·) :: runsWithin fuel limit (rest.dropWhile (!p ·))

/-- The runs of elements that do not satisfy `p`, of which so many count from the left. -/
def runs (limit : Nat) (whole : List α) : List (List α) :=
  runsWithin p (whole.length + 1) limit whole

/-- The runs of elements that do not satisfy `p`, of which so many count from the right. -/
def runsRight (limit : Nat) (whole : List α) : List (List α) :=
  ((runs p limit whole.reverse).map List.reverse).reverse

/-- A list without its leading elements that satisfy `p`. -/
def trimLeft (whole : List α) : List α :=
  whole.dropWhile p

/-- A list without its trailing elements that satisfy `p`. -/
def trimRight (whole : List α) : List α :=
  (whole.reverse.dropWhile p).reverse

end Runs

section Lines

variable (isEnd : α → Bool) (isPair : α → α → Bool) (kept : Bool)

/-- The lines of a list, with their ends if these are kept; `line` is what was gathered of the first
one, the last element first. Two elements can be one end. -/
def linesFrom : List α → List α → List (List α)
  | [], [] => []
  | line, [] => [line.reverse]
  | line, a :: b :: rest =>
    if isPair a b then (if kept then b :: a :: line else line).reverse :: linesFrom [] rest
    else if isEnd a then (if kept then a :: line else line).reverse :: linesFrom [] (b :: rest)
    else linesFrom (a :: line) (b :: rest)
  | line, [a] =>
    if isEnd a then [(if kept then a :: line else line).reverse] else [(a :: line).reverse]

/-- The lines of a list. -/
def lines (whole : List α) : List (List α) :=
  linesFrom isEnd isPair kept [] whole

end Lines

/-- A list with blanks in the place of its tabulators, each up to the next multiple of a width;
`column` is how far the line has come. -/
def expandTabs (tab blank : α) (isEnd : α → Bool) (width : Nat) : Nat → List α → List α
  | _, [] => []
  | column, a :: rest =>
    if a == tab then
      let gap := if width = 0 then 0 else width - column % width
      List.replicate gap blank ++ expandTabs tab blank isEnd width (column + gap) rest
    else a :: expandTabs tab blank isEnd width (if isEnd a then 0 else column + 1) rest

/-- The place that a number stands for in a list of a length: a negative one counts from the end. -/
def place (length : Nat) (n : Int) : Nat :=
  min length (if n < 0 then n + length else n).toNat

end FilterAlgebra.Search
