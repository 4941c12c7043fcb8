import FilterAlgebra.Capability.Standard
import FilterAlgebra.Table

/-!
# Quote styles from named options

A style can be given by named options of any values. The mark must be one of the
two marks. Whether marks are doubled may be said by a truth value, by one of the
numbers zero and one, or by a word for yes or no. All issues are reported
together: those of the two options first, then every option of another name.
-/

set_option autoImplicit false

namespace FilterAlgebra

namespace Validation

/-- The words that say no. -/
def wordsForNo : List String := ["0", "off", "f", "false", "n", "no"]

/-- The words that say yes. -/
def wordsForYes : List String := ["1", "on", "t", "true", "y", "yes"]

/-- A word for yes or no, in letters of either case. -/
def readBool (word : String) : Except (List Issue) Bool :=
  let word := word.map Char.toLower
  if wordsForNo.contains word then .ok false
  else if wordsForYes.contains word then .ok true
  else .error Expectation.readableTruthValue.unmet

/-- One of the numbers that say yes or no. An integer of more than 64 bits does not even count as an
attempt at one. -/
def boolOfInteger (n : Int) : Except (List Issue) Bool :=
  if n = 0 then .ok false
  else if n = 1 then .ok true
  else if n < -twoTo 63 ∨ twoTo 63 ≤ n then .error Expectation.truthValue.unmet
  else .error Expectation.readableTruthValue.unmet

/-- A number says yes or no only if it is an integer; the least one of 64 bits counts as none. -/
def boolOfFloat (x : Binary64) : Except (List Issue) Bool :=
  match x.integer? with
  | some n => if n = -twoTo 63 then .error Expectation.truthValue.unmet else boolOfInteger n
  | none => .error Expectation.truthValue.unmet

/-- The bytes of a text, as a text. -/
def readBytes (content : List UInt8) : Except (List Issue) String :=
  match String.fromUTF8? ⟨content.toArray⟩ with
  | some s => .ok s
  | none => .error Expectation.readableTruthValue.unmet

/-- A value that says yes or no. -/
def lenientBool (v : Value) : Except (List Issue) Bool :=
  match v.held with
  | .bool b => .ok b
  | .text t => readBool t.content
  | .bytes content => readBytes content >>= readBool
  | .float x | .customFloat x => boolOfFloat x
  | .decimal d =>
    match Binary64.ofDecimal? d with
    | some x => boolOfFloat x
    | none => .error Expectation.truthValue.unmet
  | held =>
    match held.integer? with
    | some n => boolOfInteger n
    | none => .error Expectation.truthValue.unmet

/-- One of the two marks, in a text. A tag is no mark, whatever it stands for. -/
def quoteMark (v : Value) : Except (List Issue) QuoteMark :=
  match v.held with
  | .text (.plain s) | .text (.custom s) =>
    if s = QuoteMark.single.char.toString then .ok .single
    else if s = QuoteMark.double.char.toString then .ok .double
    else .error Expectation.quoteMark.unmet
  | _ => .error Expectation.quoteMark.unmet

/-- An option that may be left out, tested under its name. -/
def optional {α : Type} (options : Table Value) (name : String) (default : α)
    (test : Value → Except (List Issue) α) : Except (List Issue) α :=
  match Table.get? options name with
  | none => .ok default
  | some v => (test v).mapError fun issues =>
    issues.map fun issue => { issue with place := .field name :: issue.place }

/-- The issues of an outcome. -/
def issuesOf {α : Type} : Except (List Issue) α → List Issue
  | .ok _ => []
  | .error issues => issues

end Validation

namespace QuoteStyle

/-- The issues with options that no style has. -/
def unknownOptions (options : Table Value) : List Issue :=
  (options.keys.filter fun name => name ≠ markOption ∧ name ≠ doubledOption).map fun name =>
    ⟨[.field name], .knownField⟩

/-- The style given by named options. -/
def ofOptions (options : Table Value) : Except (List Issue) QuoteStyle :=
  let mark := Validation.optional options markOption .single Validation.quoteMark
  let doubled := Validation.optional options doubledOption false Validation.lenientBool
  match mark, doubled, unknownOptions options with
  | .ok mark, .ok doubled, [] => .ok ⟨mark, doubled⟩
  | mark, doubled, unknown =>
    .error (Validation.issuesOf mark ++ Validation.issuesOf doubled ++ unknown)

end QuoteStyle

end FilterAlgebra
