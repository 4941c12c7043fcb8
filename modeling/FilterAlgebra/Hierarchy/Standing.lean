import FilterAlgebra.Capability.Catalogue
import FilterAlgebra.Hierarchy

/-!
# Standing classes

Some classes are there before any is defined: those of nodes, capabilities, adapters,
scopes and styles, the abstract classes above them, those of the special values, the
classes of classes, and the classes of functions and of what else classes keep. Each
has a number of its own after those of the built-in classes, so that a class
defined later can be built on any of them. `Hierarchy.standing` is the hierarchy with
all of them and none besides.
-/

set_option autoImplicit false

namespace FilterAlgebra

/-- The classes that are there before any is defined, besides the built-in ones. -/
inductive StandingClass where
  | abstractBase
  | generic
  /-- The class above all nodes. -/
  | expression
  | property
  | integerProperty
  | textProperty
  | doubleProperty
  | booleanProperty
  | decimalProperty
  | literal
  | binary
  | call
  /-- The class above all capabilities. -/
  | capability
  | integerCapability
  | textCapability
  | doubleCapability
  | hexIntegerCapability
  | evenIntegerCapability
  | shortTextCapability
  | booleanCapability
  | decimalCapability
  | pairCapability
  /-- The class above all adapters. -/
  | adapter
  | rawAdapter
  | identityAdapter
  | bundle
  | adapterSet
  /-- The class above the class of styles. -/
  | model
  | style
  | enumeration
  /-- The class above all classes of named values that are shown as what they stand for. -/
  | plainEnumeration
  | integerEnumeration
  | textEnumeration
  | customInt
  | customText
  | customFloat
  | color
  | tag
  | classOfClasses
  /-- The class of classes that need not say how everything is done. -/
  | abstractClasses
  | modelClasses
  | enumerationClasses
  | function
  | method
  | nativeFunction
  | nativeMethod
  | operator
  | boundOperator
  | nativeField
  | nativeMember
  | listing
  | containerAlias
  | frozenSet
  | mutableSet
  | typeVariable
  | genericAlias
  | recordOptions
  /-- The class of the tests that capabilities keep. -/
  | validator
  /-- The class of the answer that says nothing. -/
  | noAnswer
  /-- The class of what a model says of an option. -/
  | optionRecord
  /-- The root of all property sets. -/
  | propertySet
  deriving DecidableEq

namespace StandingClass

/-- All standing classes but the root of property sets, in their order. -/
def added : List StandingClass :=
  [abstractBase, generic, expression, property, integerProperty, textProperty, doubleProperty,
   booleanProperty, decimalProperty, literal, binary, call, capability, integerCapability,
   textCapability, doubleCapability, hexIntegerCapability, evenIntegerCapability,
   shortTextCapability, booleanCapability, decimalCapability, pairCapability, adapter, rawAdapter,
   identityAdapter, bundle, adapterSet, model, style, enumeration, plainEnumeration,
   integerEnumeration, textEnumeration, customInt, customText, customFloat, color, tag,
   classOfClasses, abstractClasses, modelClasses, enumerationClasses, function, method,
   nativeFunction, nativeMethod, operator, boundOperator, nativeField, nativeMember, listing,
   containerAlias, frozenSet, mutableSet, typeVariable, genericAlias, recordOptions, validator,
   noAnswer, optionRecord]

/-- The place of a class among the standing classes. -/
def place (c : StandingClass) : Nat :=
  added.findIdx (· = c)

/-- The first number of a standing class. -/
def firstNumber : Nat := 12

/-- The number of a standing class. -/
def id : StandingClass → ClassId
  | propertySet => Hierarchy.rootId
  | c => ⟨firstNumber + c.place⟩

/-- The standing class of a number. -/
def ofId? (id : ClassId) : Option StandingClass :=
  if id = Hierarchy.rootId then some propertySet
  else if id.number < firstNumber then none
  else added[id.number - firstNumber]?

/-- The class of a kind of properties; declared kinds are below the base class. -/
def ofProperty : PropertyKind → StandingClass
  | .integer => integerProperty
  | .text => textProperty
  | .double => doubleProperty
  | .boolean => booleanProperty
  | .decimal => decimalProperty
  | .base | .declared .. => property

/-- The kind of properties that are objects of a class. -/
def propertyKind? (c : StandingClass) : Option PropertyKind :=
  [PropertyKind.integer, .text, .double, .boolean, .decimal, .base].find? (ofProperty · = c)

/-- The class of a capability. -/
def ofCapability : StandardCapability → StandingClass
  | .integer => integerCapability
  | .text _ => textCapability
  | .double => doubleCapability
  | .hexInteger => hexIntegerCapability
  | .evenInteger => evenIntegerCapability
  | .shortText _ => shortTextCapability
  | .boolean => booleanCapability
  | .decimal => decimalCapability
  | .pair => pairCapability

/-- The capability that the objects of a class are, in the default style. -/
def capability? (c : StandingClass) : Option StandardCapability :=
  [StandardCapability.integer, .text {}, .double, .hexInteger, .evenInteger, .shortText {}, .boolean,
    .decimal, .pair].find? (ofCapability · = c)

/-- The name of a standing class. -/
def name : StandingClass → String
  | abstractBase => "ABC"
  | generic => "Generic"
  | expression => "Expression"
  | property => PropertyKind.base.className
  | integerProperty => PropertyKind.integer.className
  | textProperty => PropertyKind.text.className
  | doubleProperty => PropertyKind.double.className
  | booleanProperty => PropertyKind.boolean.className
  | decimalProperty => PropertyKind.decimal.className
  | literal => "LiteralExpr"
  | binary => "BinaryOpExpr"
  | call => "CallExpr"
  | capability => "Expressable"
  | integerCapability => StandardCapability.integer.className
  | textCapability => (StandardCapability.text {}).className
  | doubleCapability => StandardCapability.double.className
  | hexIntegerCapability => StandardCapability.hexInteger.className
  | evenIntegerCapability => StandardCapability.evenInteger.className
  | shortTextCapability => (StandardCapability.shortText {}).className
  | booleanCapability => StandardCapability.boolean.className
  | decimalCapability => StandardCapability.decimal.className
  | pairCapability => StandardCapability.pair.className
  | adapter => "ExpressableAs"
  | rawAdapter => "ValueExpressableAs"
  | identityAdapter => "NodeExpressableAs"
  | bundle => "ExpressionScope"
  | adapterSet => "UnifiedScope"
  | model => "BaseModel"
  | style => "FilterConfig"
  | enumeration => "Enum"
  | plainEnumeration => "ReprEnum"
  | integerEnumeration => "IntEnum"
  | textEnumeration => "StrEnum"
  | customInt => "MyInt"
  | customText => "MyStr"
  | customFloat => "MyFloat"
  | color => "Color"
  | tag => "Tag"
  | classOfClasses => "type"
  | abstractClasses => "ABCMeta"
  | modelClasses => "ModelMetaclass"
  | enumerationClasses => "EnumType"
  | function => "function"
  | method => "method"
  | nativeFunction => "builtin_function_or_method"
  | nativeMethod => "method_descriptor"
  | operator => "wrapper_descriptor"
  | boundOperator => "method-wrapper"
  | nativeField => "getset_descriptor"
  | nativeMember => "member_descriptor"
  | listing => "mappingproxy"
  | containerAlias => "GenericAlias"
  | frozenSet => "frozenset"
  | mutableSet => "set"
  | typeVariable => "TypeVar"
  | genericAlias => "_GenericAlias"
  | recordOptions => "_DataclassParams"
  | validator => "SchemaValidator"
  | noAnswer => "NotImplementedType"
  | optionRecord => "FieldInfo"
  | propertySet => "PropertySet"

/-- The module of everything that is always there. -/
def builtInHome : String := "builtins"

/-- The module of what users define. -/
def userHome : String := "__main__"

/-- The module that a standing class belongs to. -/
def home : StandingClass → String
  | abstractBase | abstractClasses => "abc"
  | generic | typeVariable | genericAlias => "typing"
  | expression => "typed_filter.expressions.base"
  | property | integerProperty | textProperty | doubleProperty | booleanProperty =>
    "typed_filter.expressions.property"
  | literal => "typed_filter.expressions.literal"
  | binary => "typed_filter.expressions.binary"
  | capability | integerCapability | textCapability | doubleCapability => "typed_filter.capabilities"
  | adapter | rawAdapter | identityAdapter | adapterSet => "typed_filter.unified"
  | bundle => "typed_filter.scope"
  | style => "typed_filter.config"
  | propertySet => "typed_filter.schema"
  | model => "pydantic.main"
  | modelClasses => "pydantic._internal._model_construction"
  | enumeration | plainEnumeration | integerEnumeration | textEnumeration | enumerationClasses => "enum"
  | recordOptions => "dataclasses"
  | validator => "pydantic_core._pydantic_core"
  | optionRecord => "pydantic.fields"
  | containerAlias => "types"
  | decimalProperty | call | hexIntegerCapability | evenIntegerCapability | shortTextCapability
  | booleanCapability | decimalCapability | pairCapability | customInt | customText | customFloat
  | color | tag => userHome
  | _ => builtInHome

/-- The class of a built-in type. -/
def builtIn (type : SemanticType) : ClassId :=
  (Hierarchy.classId? type).getD Hierarchy.objectId

/-- The bases of a standing class. -/
def bases : StandingClass → List ClassId
  | expression | capability | adapter => [abstractBase.id, generic.id]
  | property | literal | binary => [expression.id, generic.id]
  | call => [expression.id]
  | integerProperty | textProperty | doubleProperty | booleanProperty | decimalProperty => [property.id]
  | integerCapability | textCapability | doubleCapability | evenIntegerCapability | booleanCapability
  | decimalCapability | pairCapability => [capability.id]
  | hexIntegerCapability => [integerCapability.id]
  | shortTextCapability => [textCapability.id]
  | rawAdapter | identityAdapter => [adapter.id, generic.id]
  | style => [model.id]
  | plainEnumeration => [enumeration.id]
  | integerEnumeration => [builtIn .int, plainEnumeration.id]
  | textEnumeration => [builtIn .str, plainEnumeration.id]
  | color => [integerEnumeration.id]
  | tag => [textEnumeration.id]
  | customInt => [builtIn .int]
  | customText => [builtIn .str]
  | customFloat => [builtIn .float]
  | abstractClasses | enumerationClasses => [classOfClasses.id]
  | modelClasses => [abstractClasses.id]
  | _ => [Hierarchy.objectId]

/-- The class that a standing class is itself an object of, where that is not
the class of most classes. -/
def ownClass? : StandingClass → Option StandingClass
  | abstractBase | expression | property | integerProperty | textProperty | doubleProperty
  | booleanProperty | decimalProperty | literal | binary | call | capability | integerCapability
  | textCapability | doubleCapability | hexIntegerCapability | evenIntegerCapability
  | shortTextCapability | booleanCapability | decimalCapability | pairCapability | adapter | rawAdapter
  | identityAdapter => some abstractClasses
  | model | style => some modelClasses
  | enumeration | plainEnumeration | integerEnumeration | textEnumeration | color | tag =>
    some enumerationClasses
  | _ => none

/-- Whether the attributes of a class never change. -/
def isFixed (c : StandingClass) : Bool :=
  c = validator || c = containerAlias || (c.home = builtInHome)

/-- The classes that take no classes below them. -/
def isFinal (c : StandingClass) : Bool :=
  [function, method, nativeFunction, nativeMethod, operator, boundOperator, nativeField, nativeMember,
   listing, typeVariable, genericAlias, validator, noAnswer].contains c

/-- Whether the objects of a class hold something of their own kind. -/
def isFull (c : StandingClass) : Bool :=
  c = classOfClasses || c = containerAlias || c = frozenSet || c = mutableSet

/-- Whether a class shows all its objects under one label. -/
def isLabel (c : StandingClass) : Bool :=
  c = customInt || c = customText || c = customFloat

/-- The names of the fields of a node of a class. -/
def fields? : StandingClass → Option (List String)
  | property | integerProperty | textProperty | doubleProperty | booleanProperty | decimalProperty =>
    some ["name"]
  | literal => some ["semantic_type", "text"]
  | binary => some ["left", "op", "right", "semantic_type"]
  | call => some ["name", "arg", "semantic_type"]
  | _ => none

/-- The semantic type that a class keeps for all its objects. -/
def type? (c : StandingClass) : Option SemanticType :=
  match c.propertyKind?, c.capability? with
  | some kind, _ => kind.type?
  | _, some served => some served.type
  | none, none => if c = binary then some .bool else none

end StandingClass

namespace Hierarchy

variable {α : Type}

/-- A hierarchy with one more standing class. -/
def addStanding (h : Hierarchy α) (c : StandingClass) : Hierarchy α :=
  let above := match h.ancestry c.bases with
    | .ok above => above
    | .error _ => []
  h.add ⟨c.id, c.name, c.bases, c.id :: above, [],
    if c.isFull then some c.id else c.bases.findSome? h.holds⟩

/-- The hierarchy of all classes that are there before any is defined. -/
def standing : Hierarchy α :=
  StandingClass.added.foldl addStanding initial

end Hierarchy

end FilterAlgebra
