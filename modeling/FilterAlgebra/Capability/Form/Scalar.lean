import FilterAlgebra.Capability.Form
import FilterAlgebra.Number.Exact
import FilterAlgebra.Number.Order
import FilterAlgebra.StyleOptions
import FilterAlgebra.Text.LetterCase

/-!
# Tests of single values

A value that has no parts is tested in two steps: it is taken as a value of its kind, or
read as one where that is allowed, and then held against the bounds. How well a value
fits is told with it: exactly, as an object of a class below, or only after a reading.
-/

set_option autoImplicit false

namespace FilterAlgebra

/-- How well a value fits a form. -/
inductive Fit where
  | readable
  | below
  | exact
  deriving DecidableEq

namespace Fit

/-- The worse one of two fits. -/
def worse : Fit → Fit → Fit
  | readable, _ | _, readable => readable
  | below, _ | _, below => below
  | exact, exact => exact

/-- Whether a fit is better than another. -/
def betterThan (a b : Fit) : Bool :=
  a ≠ b && worse a b = b

end Fit

/-- The outcome of a test: what passed, or the issues. -/
abbrev Verdict := Except (List Issue)

/-- What passed a test, and how well it fits. -/
structure Fitting (α : Type) where
  content : α
  fit : Fit

namespace Form

/-- What is not as it was expected. -/
def unmet {α : Type} (expected : Expectation) : Verdict (Fitting α) :=
  .error expected.unmet

/-- What was read, or the expectation that was not met. -/
def orUnmet {α : Type} (expected : Expectation) : Option α → Verdict (Fitting α)
  | some a => .ok ⟨a, .readable⟩
  | none => unmet expected

section Bounds

variable {α : Type}

/-- The first bound that a number does not keep, given what is divided by what and how two numbers
are compared. Where they cannot be compared, a bound may count as broken. -/
def brokenBound (bounds : Bounds α) (divides : α → α → Bool) (compare : α → α → Option Ordering)
    (breaking : Bool) (shown : α → String) (a : α) : Option Expectation :=
  let ifBroken := fun (relation : Relation) (bound? : Option α) (kept : α → Bool) =>
    bound?.bind fun bound => if kept bound then none else some (Expectation.bounded relation (shown bound))
  let among := fun (orders : List Ordering) (bound : α) =>
    match compare a bound with
    | some order => orders.contains order
    | none => !breaking
  (ifBroken .multipleOf bounds.multipleOf (divides · a)).or <|
    (ifBroken .atMost bounds.atMost (among [.lt, .eq])).or <|
    (ifBroken .below bounds.below (among [.lt])).or <|
    (ifBroken .atLeast bounds.atLeast (among [.gt, .eq])).or <|
    ifBroken .above bounds.above (among [.gt])

/-- What passed, if it keeps the bounds. -/
def within (broken : α → Option Expectation) (tested : Verdict (Fitting α)) : Verdict (Fitting α) := do
  let passed ← tested
  match broken passed.content with
  | some expected => unmet expected
  | none => return passed

/-- What passed, if its length is within the bounds; the upper one is looked at first. -/
def withinLengths (lengths : Lengths) (what : Measured) (length : α → Nat) :
    Verdict (Fitting α) → Verdict (Fitting α) :=
  within fun a =>
    match lengths.most, lengths.least with
    | some most, least? =>
      if most < length a then some (.maxLength what most) else tooShort least? (length a)
    | none, least? => tooShort least? (length a)
where
  /-- The lower bound, if a length is below it. -/
  tooShort (least? : Option Nat) (actual : Nat) : Option Expectation :=
    least?.bind fun least => if actual < least then some (.minLength what least) else none

end Bounds

/-- The text of a value that is a text or bytes. What is no text at all does not count as one. -/
def writing? (v : Value) (unreadable : Expectation) : Option (Except (List Issue) String) :=
  match v.text?, v.held with
  | some s, _ => some (.ok s)
  | none, .bytes content =>
    some <|
      match String.fromUTF8? ⟨content.toArray⟩ with
      | some s => .ok s
      | none => .error unreadable.unmet
  | none, _ => none

/-- A truth value. -/
def testTruth (strict : Bool) : Value → Verdict (Fitting Bool)
  | .bool b => .ok ⟨b, .exact⟩
  | v => if strict then unmet .truthValue else (Fitting.mk · .readable) <$> Validation.lenientBool v

/-- An integer written in decimal, with blanks around it or zeros after a point. -/
def readNumeral (s : String) : Verdict (Fitting Int) :=
  let chars := trimBy isSpace s.toList
  let whole := chars.takeWhile (· != '.')
  let places := (chars.dropWhile (· != '.')).drop 1
  if Numeral.maxDigits < chars.length then unmet .shortInteger
  else if !(places.all (· == '0')) then unmet .readableInteger
  else orUnmet .readableInteger (Numeral.readChars whole).toOption

/-- A finite fraction that is an integer. -/
def wholeOf : Option (Int × Nat) → Verdict (Fitting Int)
  | none => unmet .finiteNumber
  | some (top, bottom) =>
    if top % bottom = 0 then .ok ⟨top / bottom, .readable⟩ else unmet .wholeNumber

/-- An integer. -/
def testInteger (strict : Bool) (v : Value) : Verdict (Fitting Int) :=
  match v, v.integer?, strict with
  | .int n, _, _ => .ok ⟨n, .exact⟩
  | _, some n, _ => .ok ⟨n, .below⟩
  | _, none, true => unmet .integer
  | .bool b, none, false => .ok ⟨if b then 1 else 0, .readable⟩
  | _, none, false =>
    match writing? v .readableInteger, v.float?, v.decimal? with
    | some written, _, _ => written >>= readNumeral
    | none, some x, _ => wholeOf x.fraction?
    | none, none, some d => wholeOf d.fraction?
    | none, none, none => unmet .integer

/-- A floating-point number. Every number counts as one, a truth value only where values are read. -/
def testFloat (strict : Bool) (v : Value) : Verdict (Fitting Binary64) :=
  match v with
  | .float x => .ok ⟨x, .exact⟩
  | .bool _ => if strict then unmet .number else ofNumber
  | _ =>
    match writing? v .readableNumber with
    | some written =>
      if strict then unmet .number
      else do
        let s ← written
        orUnmet .readableNumber (Binary64.ofString? s)
    | none => ofNumber
where
  /-- The number that a value is. -/
  ofNumber : Verdict (Fitting Binary64) :=
    match v.asFloat with
    | .ok x => .ok ⟨x, .below⟩
    | .error _ => unmet .number

/-- A decimal. -/
def testDecimal (strict : Bool) (v : Value) : Verdict (Fitting Decimal) :=
  match v, v.decimal?, strict with
  | .decimal d, _, _ => .ok ⟨d, .exact⟩
  | _, some d, _ => .ok ⟨d, .below⟩
  | _, none, true => unmet (.instanceOf "Decimal")
  | _, none, false =>
    match v.text?, v.integer?, v.float? with
    | some s, _, _ => orUnmet .readableDecimal ((Decimal.ofString? s).filter Decimal.inRange)
    | none, some n, _ => .ok ⟨.finite (n < 0) n.natAbs 0, .readable⟩
    | none, none, some _ => orUnmet .readableDecimal (v.display.toOption.bind Decimal.ofString?)
    | none, none, none => unmet .decimal

/-- A text, or what is written out as one. -/
def testText (strict : Bool) (shape : TextShape) (v : Value) : Verdict (Fitting String) :=
  match v, v.text?, strict with
  | .text (.plain s), _, _ => .ok ⟨s, .exact⟩
  | _, some s, _ => .ok ⟨s, .below⟩
  | _, none, true => unmet .text
  | .color c, none, false => .ok ⟨Numeral.decimal c.number, .readable⟩
  | _, none, false =>
    let isNumber := v.integer?.isSome || v.float?.isSome || v.decimal?.isSome
    match writing? v .decodableText with
    | some written => (Fitting.mk · .readable) <$> written
    | none => orUnmet .text (if shape.ofNumbers && isNumber then v.display.toOption else none)

/-- A text in a shape. -/
def testShaped (strict : Bool) (shape : TextShape) (v : Value) : Verdict (Fitting String) := do
  let stripped := fun s => if shape.stripped then String.ofList (trimBy isSpace s.toList) else s
  let passed ← withinLengths shape.lengths .text (String.length ∘ stripped) (testText strict shape v)
  let content := stripped passed.content
  let unmatched? := shape.pattern.filter fun written => !written.accepts content
  if let some written := unmatched? then unmet (.matching written.text) else
  let chars := content.toList
  let chars := if shape.lowered then LetterCase.lowered chars
    else if shape.raised then LetterCase.raised chars
    else chars
  return { passed with content := String.ofList chars }

/-- Some bytes. -/
def testBytes (strict : Bool) (v : Value) : Verdict (Fitting (List UInt8)) :=
  match v, v.held, v.text? with
  | .bytes content, _, _ => .ok ⟨content, .exact⟩
  | _, .bytes content, _ => .ok ⟨content, .below⟩
  | _, _, some s => if strict then unmet .bytes else .ok ⟨s.toUTF8.toList, .readable⟩
  | _, _, none => unmet .bytes

/-- Whether a number is a multiple of another one. -/
def dividesInteger (d n : Int) : Bool :=
  d ≠ 0 && n % d = 0

/-- A fraction divided by another one, as two integers. -/
def ratio (a b : Int × Nat) : Int × Int :=
  (a.1 * b.2, b.1 * a.2)

/-- Whether a finite number is a multiple of another one, but for a difference of less than a part in
so many of it. -/
def dividesNearly (d n : Option (Int × Nat)) (tolerance : Nat) : Bool :=
  match d, n with
  | some d, some n =>
    let (top, bottom) := ratio n d
    if bottom = 0 then false
    else
      let rest := top.natAbs % bottom.natAbs
      let near := min rest (bottom.natAbs - rest)
      near * tolerance ≤ top.natAbs || rest = 0
  | _, _ => false

/-- An integer that keeps its bounds. -/
def testBoundedInteger (strict : Bool) (bounds : Bounds Int) (v : Value) : Verdict (Fitting Int) :=
  within (brokenBound bounds dividesInteger (fun a b => some (compare a b)) true Numeral.decimal)
    (testInteger strict v)

/-- The digits of a floating-point number, without an exponent and without a point that nothing
follows. -/
def plainText (x : Binary64) : String :=
  match x.integer?, Decimal.ofString? x.text with
  | some n, _ => Numeral.decimal n
  | none, some (.finite negative c e) =>
    let digits := Nat.toDigits 10 c
    let places := (-e).toNat
    let digits := List.replicate (places + 1 - digits.length) '0' ++ digits
    let body := digits.take (digits.length - places) ++ '.' :: digits.drop (digits.length - places)
    String.ofList (if negative then '-' :: body else body)
  | none, _ => x.text

/-- A floating-point number that keeps its bounds. What is no number keeps all of them. -/
def testBoundedFloat (strict finite : Bool) (bounds : Bounds Binary64) (v : Value) :
    Verdict (Fitting Binary64) := do
  let passed ← testFloat strict v
  if finite && !passed.content.isFinite then unmet .finiteNumber
  else
    let order := fun a b => (NumberValue.ofBinary64 a).compare? (NumberValue.ofBinary64 b)
    let divides := fun (d n : Binary64) => dividesNearly d.fraction? n.fraction? 1000000000
    within (brokenBound bounds divides order false plainText) (.ok passed)

/-- How many digits a finite decimal has, and how many of them stand after the point. -/
def digitCounts (c : Nat) (e : Int) : Nat × Nat :=
  let digits := (Nat.toDigits 10 c).length
  let places := (-e).toNat
  (max (digits + e.toNat) places, places)

/-- The first limit on its digits that a decimal exceeds, whether it is written as it is or without
zeros at its end. -/
def exceededLimit (limits : DigitLimits) : Decimal → Option Expectation
  | .finite _ c e =>
    let (rest, zeros) := NumberValue.trimZeros c.log2 c
    let short := digitCounts rest (if c = 0 then 0 else e + zeros)
    let long := digitCounts c e
    let exceeds := fun (which : DigitCount) (limit? : Option Nat) (count : Nat × Nat → Nat) =>
      limit?.bind fun limit =>
        if limit < count short && limit < count long then some (Expectation.maxDigits which limit) else none
    let wholeLimit? := match limits.inTotal, limits.places with
      | some total, some places => some (total - places)
      | _, _ => none
    (exceeds .inTotal limits.inTotal (·.1)).or <|
      (exceeds .places limits.places (·.2)).or <|
      exceeds .whole wholeLimit? fun counts => counts.1 - counts.2
  | _ => none

/-- A decimal that keeps its bounds. -/
def testBoundedDecimal (strict finite : Bool) (bounds : Bounds Decimal) (limits : DigitLimits) (v : Value) :
    Verdict (Fitting Decimal) := do
  let passed ← testDecimal strict v
  let counted := limits.inTotal.isSome || limits.places.isSome
  if (finite || counted) && !passed.content.isFinite then unmet .finiteNumber
  else
    let order := fun a b => (NumberValue.ofDecimal a).compare? (NumberValue.ofDecimal b)
    let divides := fun (d n : Decimal) => dividesNearly d.fraction? n.fraction? 0
    within (fun d => (exceededLimit limits d).or (brokenBound bounds divides order true Decimal.text d))
      (.ok passed)

/-- Whether a value is one of those that a form allows: texts and integers of classes below count, but
named values do not, and truth values are no integers. -/
def isExpected (v expected : Value) : Bool :=
  match v, expected with
  | .bool a, .bool b => a == b
  | .bool _, _ | _, .bool _ | .color _, _ | .text (.tag _), _ => false
  | v, expected =>
    match v.atomsEqual expected with
    | .ok same => same
    | .error _ => false

/-- One of the values that a form allows. -/
def testExpected (expected : List (Value × String)) (v : Value) : Verdict (Fitting Value) :=
  match expected.find? fun (w, _) => isExpected v w with
  | some (w, _) => .ok ⟨w, .exact⟩
  | none => unmet (.oneOf (alternatives (expected.map (·.2))))

end Form

end FilterAlgebra
