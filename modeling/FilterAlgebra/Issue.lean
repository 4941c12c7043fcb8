/-!
# Validation issues

A value that does not meet a requirement is described by a list of issues. Each
says where in the value it lies, what kind of issue it is, and in words what was
expected there.
-/

set_option autoImplicit false

namespace FilterAlgebra

/-- One step from a value to a part of it. -/
inductive Place where
  | index (i : Nat)
  | field (name : String)
  deriving DecidableEq

/-- How a number can stand to a bound. -/
inductive Relation where
  | multipleOf
  | atMost
  | below
  | atLeast
  | above
  deriving DecidableEq

/-- What has a length. -/
inductive Measured where
  | text
  | bytes
  /-- A container, which goes by a name and has so many items, if it is known how many. -/
  | container (name : String) (actual : Option Nat)
  deriving DecidableEq

/-- Which of the digits of a decimal are counted. -/
inductive DigitCount where
  | inTotal
  | places
  | whole
  deriving DecidableEq

/-- What a value was expected to be. -/
inductive Expectation where
  | integer
  /-- A text that reads as an integer. -/
  | readableInteger
  /-- An integer whose numeral is not too long. -/
  | shortInteger
  | wholeNumber
  | number
  | readableNumber
  | decimal
  | readableDecimal
  | text
  | decodableText
  | bytes
  | truthValue
  | readableTruthValue
  | absent
  | tuple
  | list
  | mapping
  | callable
  | instanceOf (className : String)
  | subclassOf (className : String)
  | oneOf (shown : String)
  | finiteNumber
  | bounded (relation : Relation) (bound : String)
  | minLength (what : Measured) (bound : Nat)
  | maxLength (what : Measured) (bound : Nat)
  | maxDigits (what : DigitCount) (bound : Nat)
  | set (frozen : Bool)
  /-- A value from which a tag can be taken. -/
  | tagged
  /-- A tag in the place of a name. -/
  | tagUnder (shown : String)
  /-- One of the tags that there are. -/
  | knownTag (tag shownName expected : String)
  | textKeys
  /-- What one of some named values stands for. -/
  | named (shown : String)
  /-- What a function does not refuse: the complaint, and whether it is about a value. -/
  | unrefused (isOfValue : Bool) (complaint : String)
  /-- What a form words in its own way. -/
  | worded (code message : String)
  /-- A text in which a pattern is found. -/
  | matching (pattern : String)
  | present
  | quoteMark
  | knownField
  | mutable
  deriving DecidableEq

namespace Relation

/-- The code under which a bound is reported. -/
def code : Relation → String
  | multipleOf => "multiple_of"
  | atMost => "less_than_equal"
  | below => "less_than"
  | atLeast => "greater_than_equal"
  | above => "greater_than"

/-- A relation in words. -/
def words : Relation → String
  | multipleOf => "a multiple of"
  | atMost => "less than or equal to"
  | below => "less than"
  | atLeast => "greater than or equal to"
  | above => "greater than"

end Relation

/-- A noun with its count. -/
def counted (n : Nat) (noun : String) : String :=
  toString n ++ " " ++ noun ++ (if n = 1 then "" else "s")

namespace Expectation

/-- The code under which an unmet expectation is reported. -/
def code : Expectation → String
  | integer => "int_type"
  | readableInteger => "int_parsing"
  | shortInteger => "int_parsing_size"
  | wholeNumber => "int_from_float"
  | number => "float_type"
  | readableNumber => "float_parsing"
  | decimal => "decimal_type"
  | readableDecimal => "decimal_parsing"
  | text => "string_type"
  | decodableText => "string_unicode"
  | bytes => "bytes_type"
  | truthValue => "bool_type"
  | readableTruthValue => "bool_parsing"
  | absent => "none_required"
  | tuple => "tuple_type"
  | list => "list_type"
  | mapping => "dict_type"
  | callable => "callable_type"
  | instanceOf _ => "is_instance_of"
  | subclassOf _ => "is_subclass_of"
  | oneOf _ => "literal_error"
  | finiteNumber => "finite_number"
  | bounded relation _ => relation.code
  | minLength .text _ => "string_too_short"
  | minLength .bytes _ => "bytes_too_short"
  | minLength (.container ..) _ => "too_short"
  | maxLength .text _ => "string_too_long"
  | maxLength .bytes _ => "bytes_too_long"
  | maxLength (.container ..) _ => "too_long"
  | maxDigits .inTotal _ => "decimal_max_digits"
  | maxDigits .places _ => "decimal_max_places"
  | maxDigits .whole _ => "decimal_whole_digits"
  | set false => "set_type"
  | set true => "frozen_set_type"
  | tagged => "model_attributes_type"
  | tagUnder _ => "union_tag_not_found"
  | knownTag .. => "union_tag_invalid"
  | textKeys => "invalid_key"
  | named _ => "enum"
  | unrefused isOfValue _ => if isOfValue then "value_error" else "assertion_error"
  | worded code _ => code
  | matching _ => "string_pattern_mismatch"
  | present => "missing"
  | quoteMark => "literal_error"
  | knownField => "extra_forbidden"
  | mutable => "frozen_instance"

/-- A bound on a length in words. -/
def lengthMessage (which : String) (what : Measured) (bound : Nat) : String :=
  let middle := " should have " ++ which ++ " "
  match what with
  | .text => "String" ++ middle ++ counted bound "character"
  | .bytes => "Data" ++ middle ++ counted bound "byte"
  | .container name actual =>
    name ++ middle ++ counted bound "item" ++ " after validation, not " ++ (actual.map toString).getD "more"

/-- The expectations that say all by their code. -/
def plain : List Expectation :=
  [integer, readableInteger, shortInteger, wholeNumber, number, readableNumber, decimal, readableDecimal,
   text, decodableText, bytes, truthValue, readableTruthValue, absent, tuple, list, mapping, callable,
   set false, set true, tagged, finiteNumber, present, textKeys, knownField, mutable]

/-- An unmet expectation in words. -/
def message : Expectation → String
  | integer => "Input should be a valid integer"
  | readableInteger => "Input should be a valid integer, unable to parse string as an integer"
  | shortInteger => "Unable to parse input string as an integer, exceeded maximum size"
  | wholeNumber => "Input should be a valid integer, got a number with a fractional part"
  | number => "Input should be a valid number"
  | readableNumber => "Input should be a valid number, unable to parse string as a number"
  | decimal => "Decimal input should be an integer, float, string or Decimal object"
  | readableDecimal => "Input should be a valid decimal"
  | decodableText => "Input should be a valid string, unable to parse raw data as a unicode string"
  | bytes => "Input should be a valid bytes"
  | absent => "Input should be None"
  | list => "Input should be a valid list"
  | mapping => "Input should be a valid dictionary"
  | callable => "Input should be callable"
  | subclassOf className => "Input should be a subclass of " ++ className
  | oneOf shown => "Input should be " ++ shown
  | text => "Input should be a valid string"
  | truthValue => "Input should be a valid boolean"
  | readableTruthValue => "Input should be a valid boolean, unable to interpret input"
  | tuple => "Input should be a valid tuple"
  | instanceOf className => "Input should be an instance of " ++ className
  | finiteNumber => "Input should be a finite number"
  | bounded relation bound => "Input should be " ++ relation.words ++ " " ++ bound
  | minLength what bound => lengthMessage "at least" what bound
  | maxLength what bound => lengthMessage "at most" what bound
  | maxDigits what bound =>
    let start := "Decimal input should have no more than "
    match what with
    | .inTotal => start ++ counted bound "digit" ++ " in total"
    | .places => start ++ counted bound "decimal place"
    | .whole => start ++ counted bound "digit" ++ " before the decimal point"
  | set false => "Input should be a valid set"
  | set true => "Input should be a valid frozenset"
  | tagged => "Input should be a valid dictionary or object to extract fields from"
  | tagUnder shown => "Unable to extract tag using discriminator " ++ shown
  | knownTag tag shownName expected =>
    "Input tag '" ++ tag ++ "' found using " ++ shownName ++ " does not match any of the expected tags: " ++
      expected
  | textKeys => "Keys should be strings"
  | named shown => "Input should be " ++ shown
  | unrefused isOfValue complaint =>
    (if isOfValue then "Value error, " else "Assertion failed, ") ++ complaint
  | worded _ message => message
  | matching pattern => "String should match pattern '" ++ pattern ++ "'"
  | present => "Field required"
  | quoteMark => "Input should be \"'\" or '\"'"
  | knownField => "Extra inputs are not permitted"
  | mutable => "Instance is frozen"

end Expectation

/-- An unmet expectation and the place where it was not met. -/
structure Issue where
  place : List Place
  expected : Expectation
  deriving DecidableEq

end FilterAlgebra
