import FilterAlgebra.Number.Numeral
import FilterAlgebra.Text.Clipping
import FilterAlgebra.Text.Inspection

/-!
# Faults

A fault is why an operation could not be carried out at all: an object lacks what
was asked of it, a number cannot be read or written, a class cannot be defined.
Unlike a refusal, which is the verdict of a rule about an operand, a fault carries
no operand, only the names that its message needs. `Fault.message` puts faults
into words, and `Fault.kind` sorts them.
-/

set_option autoImplicit false

namespace FilterAlgebra

/-- Whose attribute is meant: that of a class itself or of one of its instances. -/
inductive Holder where
  | object (typeName : String)
  | type (name : String)
  deriving DecidableEq

/-- The sorts of faults. -/
inductive FaultKind where
  /-- An attribute is not there or not open to change. -/
  | access
  | type
  | value
  | index
  | key
  | overflow
  | zeroDivision
  | lookup
  /-- Bytes form no text. -/
  | decoding
  /-- A text has no bytes. -/
  | encoding
  | frozenInstance
  | invalidOperation
  /-- What is declared as the form of values is none. -/
  | form
  | unboundName
  deriving DecidableEq

/-- Why an operation could not be carried out. -/
inductive Fault where
  /-- A decimal numeral would have too many digits. -/
  | tooManyDigits
  /-- A numeral to be read has too many digits. -/
  | tooManyDigitsRead (count : Nat)
  | missingAttribute (holder : Holder) (name : String)
  /-- A property needs a name. -/
  | emptyName (className : String)
  /-- The fields of a node never change. -/
  | frozenField (deleting : Bool) (name : String)
  /-- The attributes of a built-in class never change. -/
  | fixedClass (name className : String)
  /-- Some attributes of a class can be changed but not deleted. -/
  | lastingAttribute (name className : String)
  /-- Some attributes of a class can only be read. -/
  | readOnly
  /-- Some attributes of a built-in class cannot be written. -/
  | notWritable (name className : String)
  /-- Some attributes of a class only take values of one class. -/
  | wrongContent (expected className name actual : String)
  | notCallable (typeName : String)
  | notIterable (typeName : String)
  | noItemAssignment (typeName : String)
  | notSubscriptable (holder : Holder)
  | notAnIndex (typeName : String)
  | indexOutOfRange (what : String)
  | indexTooLarge (typeName : String)
  | missingKey (shown : String)
  | unhashable (typeName : String)
  | unhashableSignal
  /-- A value that only signals takes part in no comparison. -/
  | invalidComparison
  /-- A text is no decimal. -/
  | notDecimal
  /-- A decimal is out of the range of decimals. -/
  | decimalOutOfRange
  /-- The sign has no meaning for the two operands. -/
  | unsupportedOperands (sign left right : String)
  | notAnInteger (typeName : String)
  | notANumber (typeName : String)
  | unreadableNumber (shown : String)
  | unreadableInteger (base : Nat) (shown : String)
  | signalingNumber
  | numberTooLarge
  | needsBytes (typeName : String)
  | repeatedBase (name : String)
  /-- The bases allow no common order of lookup. -/
  | inconsistentBases (names : List String)
  /-- Something among the bases is no class. -/
  | baseNotClass
  | unacceptableBase (name : String)
  /-- Two bases hold contents of different kinds. -/
  | clashingContents
  | nullInName
  | qualifiedNameNotText (className : String)
  /-- A class or a method does not take the arguments it was given. -/
  | badArguments (kind : FaultKind) (complaint : String)
  | unbound (name : String)
  /-- An operation was given operands it does not take. -/
  | wrongOperands
  deriving DecidableEq

namespace Fault

/-- How many bytes of the name of a class stand in a message about an attribute. -/
def nameLimit : Nat := 50

/-- How many bytes of the name of a class stand in most other messages. -/
def longNameLimit : Nat := 200

/-- How many bytes a message about inconsistent bases has at most. -/
def basesLimit : Nat := 999

/-- How many characters of a text that is no integer stand in a message. -/
def numeralLimit : Nat := 200

/-- A holder in words. -/
def holderText : Holder → String
  | .object typeName => "'" ++ clip nameLimit typeName ++ "' object"
  | .type name => "type object '" ++ clip nameLimit name ++ "'"

/-- The word of a holder that has no items. -/
def subscriptText : Holder → String
  | .object typeName => "'" ++ clip longNameLimit typeName ++ "' object"
  | .type name => "type '" ++ clip longNameLimit name ++ "'"

/-- A type name between apostrophes. -/
def quoted (typeName : String) : String :=
  "'" ++ clip longNameLimit typeName ++ "'"

/-- The end of messages about numerals of too many digits. -/
def digitAdvice : String := "use sys.set_int_max_str_digits() to increase the limit"

/-- The limit on the digits of numerals, in words. -/
def digitLimit : String :=
  "Exceeds the limit (" ++ toString Numeral.maxDigits ++ " digits) for integer string conversion"

/-- A fault in words. -/
def message : Fault → String
  | tooManyDigits => digitLimit ++ "; " ++ digitAdvice
  | tooManyDigitsRead count =>
    digitLimit ++ ": value has " ++ toString count ++ " digits; " ++ digitAdvice
  | missingAttribute holder name => holderText holder ++ " has no attribute '" ++ name ++ "'"
  | emptyName className => className ++ " name must be a non-empty string"
  | frozenField deleting name =>
    (if deleting then "cannot delete field " else "cannot assign to field ") ++ Inspection.ofString name
  | fixedClass name className =>
    "cannot set " ++ Inspection.ofString name ++ " attribute of immutable type '" ++ className ++ "'"
  | lastingAttribute name className =>
    "cannot delete '" ++ name ++ "' attribute of immutable type '" ++ className ++ "'"
  | readOnly => "readonly attribute"
  | notWritable name className =>
    "attribute '" ++ name ++ "' of '" ++ className ++ "' objects is not writable"
  | wrongContent expected className name actual =>
    "can only assign " ++ expected ++ " to " ++ className ++ "." ++ name ++ ", not " ++ actual
  | notCallable typeName => quoted typeName ++ " object is not callable"
  | notIterable typeName => quoted typeName ++ " object is not iterable"
  | noItemAssignment typeName => quoted typeName ++ " object does not support item assignment"
  | notSubscriptable holder => subscriptText holder ++ " is not subscriptable"
  | notAnIndex typeName => "list indices must be integers or slices, not " ++ clip longNameLimit typeName
  | indexOutOfRange what => what ++ "index out of range"
  | indexTooLarge typeName => "cannot fit " ++ quoted typeName ++ " into an index-sized integer"
  | missingKey shown => shown
  | unhashable typeName => "unhashable type: " ++ quoted typeName
  | unhashableSignal => "Cannot hash a signaling NaN value"
  | invalidComparison | decimalOutOfRange => "[<class 'decimal.InvalidOperation'>]"
  | notDecimal => "[<class 'decimal.ConversionSyntax'>]"
  | unsupportedOperands sign left right =>
    "unsupported operand type(s) for " ++ sign ++ ": '" ++ left ++ "' and '" ++ right ++ "'"
  | notAnInteger typeName => quoted typeName ++ " object cannot be interpreted as an integer"
  | notANumber typeName =>
    "float() argument must be a string or a real number, not '" ++ typeName ++ "'"
  | unreadableNumber shown => "could not convert string to float: " ++ shown
  | unreadableInteger base shown =>
    "invalid literal for int() with base " ++ toString base ++ ": " ++
      String.ofList (shown.toList.take numeralLimit)
  | signalingNumber => "cannot convert signaling NaN to float"
  | numberTooLarge => "int too large to convert to float"
  | needsBytes typeName => "a bytes-like object is required, not '" ++ typeName ++ "'"
  | repeatedBase name => "duplicate base class " ++ name
  | inconsistentBases names =>
    clip basesLimit ("Cannot create a consistent method resolution\norder (MRO) for bases " ++
      ", ".intercalate names)
  | baseNotClass =>
    "metaclass conflict: the metaclass of a derived class must be a (non-strict) subclass of the " ++
      "metaclasses of all its bases"
  | unacceptableBase name => "type '" ++ name ++ "' is not an acceptable base type"
  | clashingContents => "multiple bases have instance lay-out conflict"
  | nullInName => "type name must not contain null characters"
  | qualifiedNameNotText className => "type __qualname__ must be a str, not " ++ className
  | badArguments _ complaint => complaint
  | unbound name => name
  | wrongOperands => "operands do not fit the operation"

/-- The sort of a fault. -/
def kind : Fault → FaultKind
  | missingAttribute .. | readOnly | notWritable .. => .access
  | tooManyDigits | tooManyDigitsRead _ | emptyName _ | unreadableNumber _ | unreadableInteger ..
  | signalingNumber | nullInName => .value
  | indexOutOfRange _ | indexTooLarge _ => .index
  | missingKey _ => .key
  | numberTooLarge => .overflow
  | frozenField .. => .frozenInstance
  | invalidComparison | notDecimal | decimalOutOfRange => .invalidOperation
  | badArguments kind _ => kind
  | unbound _ => .unboundName
  | _ => .type

/-- A text or the fault that there is none, compared with another. -/
instance decEqShown : DecidableEq (Except Fault String)
  | .ok a, .ok b => decidable_of_iff (a = b) ⟨congrArg _, Except.ok.inj⟩
  | .error a, .error b => decidable_of_iff (a = b) ⟨congrArg _, Except.error.inj⟩
  | .ok _, .error _ => .isFalse nofun
  | .error _, .ok _ => .isFalse nofun

/-- What there is, or the given fault where there is nothing. -/
def ofOption {α : Type} (fault : Fault) : Option α → Except Fault α
  | some a => .ok a
  | none => .error fault

end Fault

end FilterAlgebra
