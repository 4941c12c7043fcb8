import FilterAlgebra.Fault

/-!
# Semantic types

Every filter expression stands for a value of some type, and operators only join
expressions whose types fit. Types are compared by identity, so two declared
classes of one name are different types. Nothing keeps an object that is no class
from standing where a type should; it is a type of its own then, told from others
by its identity, and may have no name.
-/

set_option autoImplicit false

namespace FilterAlgebra

/-- A class, told from others by its number. -/
structure ClassId where
  number : Nat
  deriving DecidableEq

/-- What can be told about an object without looking into it. -/
structure Handle where
  /-- The number that tells the object from all others. -/
  serial : Nat
  className : String
  holder : Holder
  /-- Its name as a type, or why it has none. -/
  named : Except Fault String
  /-- Its inspection form. -/
  shown : Except Fault String
  /-- Its form inside a text. -/
  displayed : Except Fault String
  deriving DecidableEq

/-- The types an expression may stand for. -/
inductive SemanticType where
  | int
  | str
  | float
  | bool
  | bytes
  | tuple
  | list
  | dict
  | object
  | decimal
  | none
  /-- The absent value in the place of a type. -/
  | absent
  | declared (id : ClassId) (name shown : String)
  /-- Any other object in the place of a type. -/
  | other (h : Handle)
  deriving DecidableEq

namespace SemanticType

/-- The classes that are always there. -/
def fixed : List SemanticType :=
  [object, int, str, float, bool, bytes, tuple, list, dict, decimal, none]

/-- The name of a class that is always there; other types have an empty one here. -/
def fixedName : SemanticType → String
  | int => "int"
  | str => "str"
  | float => "float"
  | bool => "bool"
  | bytes => "bytes"
  | tuple => "tuple"
  | list => "list"
  | dict => "dict"
  | object => "object"
  | decimal => "Decimal"
  | none => "NoneType"
  | _ => ""

/-- The class of a name, among those that are always there. -/
def ofName? (name : String) : Option SemanticType :=
  fixed.find? (·.fixedName == name)

/-- The name of a type. What is no class usually has none. -/
def name : SemanticType → Except Fault String
  | absent => .error (.missingAttribute (.object "NoneType") "__name__")
  | declared _ name _ => .ok name
  | other h => h.named
  | type => .ok type.fixedName

/-- Whether a type is a class. -/
def isClass : SemanticType → Bool
  | absent | other _ => false
  | _ => true

/-- Every class has a name. -/
theorem name_of_isClass {type : SemanticType} (h : type.isClass = true) :
    ∃ name, type.name = .ok name := by
  cases type with
  | absent | other _ => simp [isClass] at h
  | _ => exact ⟨_, rfl⟩

/-- The name of a type together with the module it belongs to. -/
def typeName : SemanticType → String
  | decimal => "decimal.Decimal"
  | declared _ name _ => name
  | type => type.fixedName

/-- The inspection form of a type. -/
def inspect : SemanticType → Except Fault String
  | absent => .ok "None"
  | declared _ _ shown => .ok shown
  | other h => h.shown
  | type => .ok ("<class '" ++ type.typeName ++ "'>")

end SemanticType

end FilterAlgebra
