import FilterAlgebra.Build
import FilterAlgebra.Hierarchy.Standing

/-!
# Functions of classes

A function is known by the class that defines it and by what it does there. It takes
operands of fixed names, the object that it is asked of first; some of the last ones
may be left out, and any may be given by name. `Function.arrange` puts the operands
of a call in order, or says why the function does not take them.
-/

set_option autoImplicit false

namespace FilterAlgebra

/-- What functions do. -/
inductive Action where
  /-- Gives a new object its attributes. -/
  | setUp
  /-- Makes sure that a new property has a name. -/
  | checkName
  | inspect
  | display
  | sameAs
  | hash
  | refuseChange
  | refuseDeletion
  /-- Joins a node with what stands on its right. -/
  | conjoinWith
  /-- Joins a node with what stands on its left. -/
  | conjoinAfter
  /-- Prepares a new class below. -/
  | register
  | render
  | accepts
  | asExpression
  | format
  /-- The test of a capability. -/
  | validate
  /-- Makes a raw adapter of a capability. -/
  | unify
  | toExpression
  | capabilityFor
  | lift
  | equate
  | conjoin
  | targetTypes
  | resolve
  /-- Joins two operands at one type. -/
  | combine
  | equateUnified
  | conjoinUnified
  | quote
  | properties
  | filter (design : Design)
  /-- Something that is not known. -/
  | other (name : String)
  deriving DecidableEq

namespace Action

/-- The name under which an action is asked for. -/
def name : Action → String
  | setUp => "__init__"
  | checkName => "__post_init__"
  | inspect => "__repr__"
  | display => "__str__"
  | sameAs => "__eq__"
  | hash => "__hash__"
  | refuseChange => "__setattr__"
  | refuseDeletion => "__delattr__"
  | conjoinWith => "__and__"
  | conjoinAfter => "__rand__"
  | register => "__init_subclass__"
  | render => "render"
  | accepts => "accepts"
  | asExpression => "as_expression"
  | format => "format"
  | validate => "_validate"
  | unify => "to_expressable_as"
  | toExpression => "to_expression"
  | capabilityFor => "capability_for"
  | lift => "lift"
  | equate => "eq"
  | conjoin => "and_"
  | targetTypes => "target_types"
  | resolve => "resolve"
  | combine => "_combine"
  | equateUnified => "eq2"
  | conjoinUnified => "and2"
  | quote => "quote"
  | properties => "get_properties"
  | filter .plain => "filter"
  | filter .unified => "filter2"
  | other name => name

/-- The names of the functions of models that are asked of a class. -/
def ofModelClasses : List String :=
  ["__class_getitem__", "__get_pydantic_core_schema__", "__get_pydantic_json_schema__",
   "__pydantic_init_subclass__", "construct", "from_orm", "model_construct", "model_json_schema",
   "model_parametrized_name", "model_rebuild", "model_validate", "model_validate_json",
   "model_validate_strings", "parse_file", "parse_obj", "parse_raw", "schema", "schema_json",
   "update_forward_refs", "validate"]

/-- Whether a function that does this takes a class for its first operand. -/
def isOfClass : Action → Bool
  | register | properties | filter _ => true
  | other name => name = "__init_subclass__" || name = "_missing_" || ofModelClasses.contains name
  | _ => false

end Action

/-- A function: the class that defines it, and what it does there. -/
structure Function where
  owner : StandingClass
  action : Action
  deriving DecidableEq

namespace Function

/-- The name of a function together with that of its class. -/
def name (f : Function) : String :=
  f.owner.name ++ "." ++ f.action.name

/-- The operands that a new object of a class is made of. -/
def parts (c : StandingClass) : List String :=
  match c.fields?, c with
  | some fields, _ => fields
  | none, .textCapability => ["config"]
  | none, .rawAdapter => ["expressable"]
  | none, .identityAdapter => ["semantic_type"]
  | none, .bundle => ["expressables"]
  | none, .adapterSet => ["capabilities"]
  | none, _ => []

/-- The operands of a function after the first. -/
def others (f : Function) : List String :=
  match f.action with
  | .setUp => parts f.owner
  | .accepts | .asExpression | .format | .validate | .toExpression | .quote => ["value"]
  | .sameAs | .conjoinWith | .conjoinAfter => ["other"]
  | .refuseChange => ["name", "value"]
  | .refuseDeletion => ["name"]
  | .capabilityFor => ["semantic_type"]
  | .lift => ["value", "semantic_type"]
  | .equate | .conjoin | .equateUnified | .conjoinUnified => ["left", "right"]
  | .resolve => ["value", "target_type"]
  | .combine => ["left", "op", "right", "target_type"]
  | .filter _ => ["build"]
  | .other "replace" => ["old", "new"]
  | _ => []

/-- The names of the operands of a function. -/
def operands (f : Function) : List String :=
  (if f.action.isOfClass then "cls" else "self") :: f.others

/-- How many operands a function can do without. -/
def optional (f : Function) : Nat :=
  match f.action, f.owner with
  | .lift, _ | .setUp, .binary | .setUp, .textCapability => 1
  | _, _ => 0

/-- Whether a function takes operands of any other names. -/
def isOpen (f : Function) : Bool :=
  match f.action with
  | .filter _ | .register => true
  | .setUp => f.owner = .model
  | _ => false

/-- Whether an operand of a function can be given by its name. -/
def isNamed (f : Function) (name : String) : Bool :=
  !(f.owner = .model && f.action = .setUp) && f.operands.contains name

/-- A function called with the wrong operands. -/
def complaint (shown text : String) : Fault :=
  .badArguments .type (shown ++ "() " ++ text)

/-- Some names in words. -/
def enumeration : List String → String
  | [] => ""
  | [name] => name
  | [first, second] => first ++ " and " ++ second
  | names => ", ".intercalate names.dropLast ++ ", and " ++ names.getLastD ""

/-- How many operands a function takes, in words. -/
def capacity (f : Function) : String :=
  let most := f.operands.length
  if f.optional = 0 then
    toString most ++ " positional argument" ++ (if most = 1 then "" else "s")
  else "from " ++ toString (most - f.optional) ++ " to " ++ toString most ++ " positional arguments"

section Arrangement

variable {α : Type} (f : Function) (shown : String)

/-- Puts the operands that are given by name in their places, if the places are still free. -/
def placeNamed (places : Table (Option α)) : Table α → Except Fault (Table (Option α))
  | [] => .ok places
  | (name, a) :: rest =>
    if f.isNamed name then
      match Table.get? places name with
      | some (some _) => .error (complaint shown ("got multiple values for argument '" ++ name ++ "'"))
      | _ => placeNamed (Table.put places name (some a)) rest
    else if f.isOpen then placeNamed places rest
    else .error (complaint shown ("got an unexpected keyword argument '" ++ name ++ "'"))

/-- The operands of a call in the order of their names, each with what is given for it.
A wrong name is reported first, then too many operands, then missing ones. The function is shown
under the given name. -/
def arrange (given : List α) (named : Table α) : Except Fault (List (Option α)) := do
  let names := f.operands
  let filled := (given.take names.length).map some
  let places := names.zip (filled ++ List.replicate (names.length - filled.length) none)
  let places ← placeNamed f shown places named
  if names.length < given.length then
    .error (complaint shown ("takes " ++ f.capacity ++ " but " ++ toString given.length ++ " were given"))
  else
    let missing := (places.take (names.length - f.optional)).filter (·.2.isNone)
    if missing.isEmpty then return places.map (·.2)
    else
      .error (complaint shown ("missing " ++ counted missing.length "required positional argument" ++ ": " ++
        enumeration (missing.map fun (name, _) => "'" ++ name ++ "'")))

end Arrangement

end Function

end FilterAlgebra
