import FilterAlgebra.Session.Member
import FilterAlgebra.Value.NumberMembers

/-!
# What members take

A member of a native class takes a certain number of operands besides its object, and
says in one of a few ways that it was given another number. `Member.complaint?` says so
before anything else is looked at.
-/

set_option autoImplicit false

namespace FilterAlgebra

/-- How many operands a member takes, and how it says so. -/
inductive Intake where
  /-- An operator counts what it expected; with more than one form of it, it starts with a blank. -/
  | operator (isFormed : Bool) (least most : Nat)
  /-- A method without operands, or with one. -/
  | single (takesOne : Bool)
  /-- A method that expected so many operands. -/
  | expecting (least most : Nat)
  /-- A method that takes so many operands. -/
  | taking (least most : Nat)
  /-- A method that takes some operands, the first of them only by its place. -/
  | placing (least most : Nat)
  /-- A method that goes without its name. -/
  | unnamed (least most : Nat)
  /-- A method that goes without its name, and knows what its operands are called. -/
  | nameless (needed : List String) (most : Nat)
  /-- A method that takes any number of operands. -/
  | any

namespace Intake

/-- A bound on operands in words, the lower one if less than that are given. -/
def bound (least most given : Nat) : String :=
  if least = most then counted least "argument"
  else if given < least then "at least " ++ counted least "argument"
  else "at most " ++ counted most "argument"

/-- What a member says that is not given what it takes, if it says anything. `name` is its own name and
`fullName` the one together with that of its class. -/
def complaint? (intake : Intake) (name fullName : String) (given : Nat) : Option String :=
  let unlessBetween := fun (least most : Nat) (words : String) =>
    if least ≤ given ∧ given ≤ most then none else some words
  let count := " (" ++ toString given ++ " given)"
  match intake with
  | operator isFormed least most =>
    unlessBetween least most ((if isFormed then " " else "") ++ "expected " ++ bound least most given ++
      ", got " ++ toString given)
  | single false => unlessBetween 0 0 (fullName ++ "() takes no arguments" ++ count)
  | single true => unlessBetween 1 1 (fullName ++ "() takes exactly one argument" ++ count)
  | expecting least most =>
    unlessBetween least most (name ++ " expected " ++ bound least most given ++ ", got " ++ toString given)
  | taking least most =>
    unlessBetween least most (name ++ "() takes " ++
      if most = 0 then "no positional arguments" else bound least most given ++ count)
  | placing least most =>
    unlessBetween least most (name ++ "() takes " ++ (if given < least then
      "at least " ++ counted least "positional argument" else bound least most given) ++ count)
  | nameless needed most =>
    if most < given then some ("function takes at most " ++ counted most "argument" ++ count)
    else
      (needed[given]?).map fun missing =>
        "function missing required argument '" ++ missing ++ "' (pos " ++ toString (given + 1) ++ ")"
  | unnamed least most => unlessBetween least most ("function takes " ++ bound least most given ++ count)
  | any => none

/-- The operators without an operand besides their object. -/
def unary : List String :=
  Member.words <|
    "__repr__ __hash__ __str__ __neg__ __pos__ __abs__ __bool__ __invert__ __int__ __float__ __index__ " ++
    "__iter__ __len__"

/-- How many operands an operator takes. -/
def ofOperator (t : SemanticType) (name : String) : Intake :=
  let isSequence := [SemanticType.str, .bytes, .tuple, .list].contains t
  if name = "__pow__" || name = "__rpow__" then operator true 1 2
  else if name = "__setitem__" || name = "__setattr__" then operator true 2 2
  else if isSequence && ["__mul__", "__rmul__", "__imul__"].contains name then operator true 1 1
  else if unary.contains name then operator false 0 0
  else if name = "__init__" || name = "__call__" || name = "__get__" then any
  else operator false 1 1

/-- The methods with one operand. -/
def withOne : List String :=
  Member.words <|
    "__format__ join partition rpartition removeprefix removesuffix zfill format_map __getitem__ " ++
    "append extend remove __contains__ __deepcopy__ __reduce_ex__ fromhex __class_getitem__ from_float " ++
    "__instancecheck__ __subclasscheck__"

/-- The methods that look for something in a text. -/
def searching : List String :=
  Member.words "count find index rfind rindex startswith endswith"

/-- The methods of decimals that take another number. -/
def comparing : List String :=
  Member.words <|
    "compare compare_signal max max_mag min min_mag next_toward remainder_near compare_total " ++
    "compare_total_mag copy_sign same_quantum logical_and logical_or logical_xor rotate scaleb shift"

/-- How many operands a method of decimals takes. -/
def ofDecimalMethod (name : String) : Intake :=
  if comparing.contains name then nameless ["other"] 2
  else if Value.contextual.contains name || name = "__round__" then nameless [] 1
  else if ["to_integral", "to_integral_exact", "to_integral_value"].contains name then nameless [] 2
  else if name = "quantize" then nameless ["exp"] 3
  else if name = "__format__" then unnamed 1 2
  else if name = "fma" then nameless ["other", "third"] 3
  else single (name = "__deepcopy__")

/-- How many operands a method takes. -/
def ofMethod (t : SemanticType) (name : String) : Intake :=
  let ofTexts := t = .str || t = .bytes
  match name with
  | "format" => any
  | "to_bytes" => taking 0 3
  | "from_bytes" => taking 1 3
  | "encode" | "decode" | "split" | "rsplit" => taking 0 2
  | "translate" => if t = .bytes then placing 1 2 else single true
  | "hex" => if t = .bytes then taking 0 2 else single false
  | "expandtabs" | "splitlines" => taking 0 1
  | "center" | "ljust" | "rjust" | "get" | "setdefault" | "fromkeys" => expecting 1 2
  | "strip" | "lstrip" | "rstrip" | "update" | "__round__" => expecting 0 1
  | "pop" => if t = .dict then expecting 1 2 else expecting 0 1
  | "replace" => expecting 2 3
  | "insert" => expecting 2 2
  | "sort" => taking 0 0
  | "maketrans" => expecting 1 3
  | "__new__" | "__prepare__" | "__subclasshook__" => any
  | name =>
    if ofTexts && searching.contains name then taking 1 3
    else if name = "index" then expecting 1 3
    else single (name = "count" || withOne.contains name)

end Intake

/-- How many operands a member takes besides its object. Members of other classes than the built-in
ones say for themselves what they take. -/
def Member.intake (m : Member) : Intake :=
  match Hierarchy.builtIn? m.owner, m.sort with
  | some .decimal, .method => Intake.ofDecimalMethod m.name
  | some t, .operator => Intake.ofOperator t m.name
  | some t, _ => Intake.ofMethod t m.name
  | none, .operator => Intake.ofOperator .object m.name
  | none, _ => if Intake.withOne.contains m.name then .single true else .any

end FilterAlgebra
