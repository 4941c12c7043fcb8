import FilterAlgebra.Text.CharSet

/-!
# Patterns

A pattern says what a stretch of a text looks like. It is read against a text from many
places at once: `Pattern.ends` takes the places at which a stretch may start to those at
which it may end, so that no choice ever has to be taken back. A text matches if the
pattern is found anywhere in it.
-/

set_option autoImplicit false

namespace FilterAlgebra

/-- What can be asked of a place in a text without passing over a character. -/
inductive Assertion where
  | textStart
  | textEnd
  /-- The start of a line; the returns at the ends of lines may count as well. -/
  | lineStart (returns : Bool)
  | lineEnd (returns : Bool)
  /-- The end of a text, or a place before a line end that stands there. -/
  | lastLineEnd
  /-- A place between what is in a word and what is not. -/
  | wordEdge (word : CharSet)
  | noWordEdge (word : CharSet)
  | wordStart (word : CharSet)
  | wordEnd (word : CharSet)
  /-- A place before which no word goes on. -/
  | outsideBefore (word : CharSet)
  | outsideAfter (word : CharSet)

namespace Assertion

/-- Whether what is asked holds behind a character, which there may be or not, and before others. -/
def holds (a : Assertion) (before : Option Char) (rest : List Char) : Bool :=
  let after := rest.head?
  match a with
  | textStart => before.isNone
  | textEnd => after.isNone
  | lineStart false => before.isNone || before = some '\n'
  | lineEnd false => after.isNone || after = some '\n'
  | lineStart true => before.isNone || before = some '\n' || (before = some '\r' && after ≠ some '\n')
  | lineEnd true => after.isNone || after = some '\r' || (after = some '\n' && before ≠ some '\r')
  | lastLineEnd => rest = [] || rest = ['\n']
  | wordEdge word => before.any word.contains != after.any word.contains
  | noWordEdge word => before.any word.contains == after.any word.contains
  | wordStart word => !before.any word.contains && after.any word.contains
  | wordEnd word => before.any word.contains && !after.any word.contains
  | outsideBefore word => !before.any word.contains
  | outsideAfter word => !after.any word.contains

end Assertion

/-- What a stretch of a text looks like. -/
inductive Pattern where
  /-- Nothing at all. -/
  | nothing
  /-- One character of a set. -/
  | one (s : CharSet)
  /-- A place. -/
  | place (a : Assertion)
  | sequence (p q : Pattern)
  | choice (p q : Pattern)
  | repeated (p : Pattern) (least : Nat) (most : Option Nat)
  /-- A place at which a stretch starts, or ends if it is behind; or one at which none does. -/
  | look (behind negated : Bool) (p : Pattern)

namespace Pattern

/-- For each place in a text, from before its first character to behind its last, whether it counts. -/
abbrev Places := List Bool

/-- The places of either of two kinds. -/
def either (a b : Places) : Places :=
  List.zipWith (· || ·) a b

/-- The ends of a text, from the whole text to nothing. -/
def tails : List Char → List (List Char)
  | [] => [[]]
  | c :: rest => (c :: rest) :: tails rest

/-- What is on both sides of each place: the character before it, and all characters behind it. -/
def sides (text : List Char) : List (Option Char × List Char) :=
  (none :: text.map some).zip (tails text)

/-- Only one of so many places. -/
def onlyAt (count i : Nat) : Places :=
  (List.range count).map (· == i)

/-- The places that are reached in exactly so many steps. -/
def after (step : Places → Places) : Nat → Places → Places
  | 0, places => places
  | count + 1, places => if places.contains true then after step count (step places) else places

/-- The places that are reached in at most so many steps. -/
def upTo (step : Places → Places) : Nat → Places → Places
  | 0, places => places
  | count + 1, places =>
    let more := either places (step places)
    if more = places then places else upTo step count more

/-- The places at which a stretch may end that starts at one of some places. -/
def ends (text : List Char) : Pattern → Places → Places
  | nothing, starts => starts
  | one s, starts => false :: List.zipWith (fun counts c => counts && s.contains c) starts text
  | place a, starts =>
    List.zipWith (fun counts side => counts && a.holds side.1 side.2) starts (sides text)
  | sequence p q, starts => ends text q (ends text p starts)
  | choice p q, starts => either (ends text p starts) (ends text q starts)
  | repeated p least most, starts =>
    let most := (most.map (· - least)).getD (text.length + 1)
    upTo (ends text p) (min most (text.length + 1)) (after (ends text p) least starts)
  | look behind negated p, starts =>
    let count := text.length + 1
    let reached := (List.range count).map fun i => ends text p (onlyAt count i)
    let found :=
      if behind then reached.foldl either (List.replicate count false) else reached.map (·.contains true)
    List.zipWith (fun counts isFound => counts && (isFound != negated)) starts found

/-- Whether a pattern is found anywhere in a text. -/
def isFoundIn (p : Pattern) (text : String) : Bool :=
  let chars := text.toList
  (p.ends chars (List.replicate (chars.length + 1) true)).contains true

/-- Whether a pattern is found at the start of a text. -/
def isFoundAtStart (p : Pattern) (text : String) : Bool :=
  let chars := text.toList
  (p.ends chars (onlyAt (chars.length + 1) 0)).contains true

/-- Patterns one after another. -/
def inRow : List Pattern → Pattern
  | [] => nothing
  | [p] => p
  | p :: rest => sequence p (inRow rest)

/-- One of several patterns. -/
def oneOf : List Pattern → Pattern
  | [] => nothing
  | [p] => p
  | p :: rest => choice p (oneOf rest)

end Pattern

end FilterAlgebra
