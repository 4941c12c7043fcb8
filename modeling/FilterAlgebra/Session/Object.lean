import FilterAlgebra.Capability.Outline
import FilterAlgebra.Session.Function
import FilterAlgebra.Session.Member

/-!
# Objects

Values of equal content can be different objects: two integer literals may look
alike and still not be the same literal, and a list can be changed by one who holds
it for all others who do. An object is therefore a number, and what is known of it
stands in a cell: its content, which refers to other objects by their numbers, and
the attributes it has of its own. Most objects of the library, nodes among them,
consist of nothing but attributes and know their class.
-/

set_option autoImplicit false

namespace FilterAlgebra

/-- An object, told from others by its number. -/
abbrev Ref := Nat

/-- What an object consists of. -/
inductive Content where
  /-- A value that refers to no other objects. -/
  | atom (v : Value)
  | list (items : List Ref)
  | tuple (items : List Ref)
  | dict (entries : List (Ref × Ref))
  /-- Items without an order. -/
  | collection (frozen : Bool) (items : List Ref)
  /-- A mapping that cannot be changed. -/
  | listing (entries : List (Ref × Ref))
  /-- The own attributes of a class as a mapping that cannot be changed. -/
  | classListing (id : ClassId)
  | type (id : ClassId)
  /-- An object of a class that consists of attributes. -/
  | object (type : ClassId)
  | function (f : Function)
  /-- A function together with the object that it is asked of. -/
  | method (function self : Ref)
  | member (m : Member)
  /-- A member together with the object that it is asked of. -/
  | boundMember (m : Member) (self : Ref)
  /-- A class of containers together with what is said of its items. -/
  | containerOf (type : Ref) (shown : String)
  /-- The test of a capability. -/
  | validator (test : CapabilityTest)
  /-- An object of a class of which only the inspection form is known. -/
  | token (type : StandingClass) (shown : String)
  /-- The builder of a filter. -/
  | builder

/-- The entries of a mapping. -/
def Content.entries? : Content → Option (List (Ref × Ref))
  | dict entries | listing entries => some entries
  | _ => none

/-- What is known of an object. -/
structure Cell where
  content : Content
  attributes : Table Ref := []
  /-- The mapping that holds the attributes of the object in the place of `attributes`. -/
  keptIn? : Option Ref := none
  /-- The class of the object, if that is a class below the one that the content is of. -/
  below? : Option ClassId := none

/-- What there is only one object of. -/
inductive Shared where
  | none
  | bool (b : Bool)
  | smallInt (n : Int)
  | shortText (s : String)
  | shortBytes (content : List UInt8)
  | emptyTuple
  | emptyCollection
  | color (c : Color)
  | tag (t : Tag)
  | type (id : ClassId)
  /-- The style that is used where no other is given. -/
  | defaultStyle
  /-- A word that is written by a rule, such as the sign of conjunctions. -/
  | word (s : String)
  /-- The name of a class. -/
  | nameOf (id : ClassId) (name : String)
  /-- The collected properties of a class. -/
  | collectedOf (id : ClassId)
  | basesOf (id : ClassId) (bases : List ClassId)
  | lineageOf (id : ClassId) (lineage : List ClassId)
  deriving DecidableEq

namespace Shared

/-- The least integer that there is only one object of. -/
def leastSmallInt : Int := -5

/-- The greatest integer that there is only one object of. -/
def greatestSmallInt : Int := 256

/-- Whether there is only one object of a text: the empty one, and any of a single character below
256, which is written in at most two bytes. -/
def isShort (s : String) : Bool :=
  s.utf8ByteSize ≤ 2 &&
    match s.toList with
    | [] => true
    | [c] => c.toNat < 0x100
    | _ => false

/-- Under which name the only object of a value is known, if there is only one. -/
def ofValue? : Value → Option Shared
  | .none => some none
  | .bool b => some (bool b)
  | .int n => if leastSmallInt ≤ n ∧ n ≤ greatestSmallInt then some (smallInt n) else Option.none
  | .text (.plain s) => if isShort s then some (shortText s) else Option.none
  | .text (.tag t) => some (tag t)
  | .bytes content => if content.length ≤ 1 then some (shortBytes content) else Option.none
  | .color c => some (color c)
  | .tuple [] => some emptyTuple
  | _ => Option.none

end Shared

namespace Value

/-- The class of a value that refers to no other objects. -/
def classId : Value → ClassId
  | none => StandingClass.builtIn .none
  | bool _ => StandingClass.builtIn .bool
  | int _ => StandingClass.builtIn .int
  | customInt _ => StandingClass.customInt.id
  | color _ => StandingClass.color.id
  | float _ => StandingClass.builtIn .float
  | customFloat _ => StandingClass.customFloat.id
  | text (.plain _) => StandingClass.builtIn .str
  | text (.custom _) => StandingClass.customText.id
  | text (.tag _) => StandingClass.tag.id
  | bytes _ => StandingClass.builtIn .bytes
  | decimal _ => StandingClass.builtIn .decimal
  | list _ => StandingClass.builtIn .list
  | tuple _ => StandingClass.builtIn .tuple
  | dict .. => StandingClass.builtIn .dict
  | listing .. => StandingClass.listing.id
  | type _ => StandingClass.classOfClasses.id
  | style _ => StandingClass.style.id
  | node _ | derived .. | object _ => Hierarchy.objectId

end Value

namespace Attribute

/-- The name of an attribute that objects of the library have. -/
def semanticType : String := "semantic_type"

@[inherit_doc semanticType] def name : String := "name"

@[inherit_doc semanticType] def text : String := "text"

@[inherit_doc semanticType] def operand : String := "arg"

@[inherit_doc semanticType] def left : String := "left"

@[inherit_doc semanticType] def sign : String := "op"

@[inherit_doc semanticType] def right : String := "right"

@[inherit_doc semanticType] def style : String := "config"

@[inherit_doc semanticType] def capability : String := "expressable"

@[inherit_doc semanticType] def target : String := "target_type"

@[inherit_doc semanticType] def capabilities : String := "expressables"

@[inherit_doc semanticType] def byType : String := "_by_type"

@[inherit_doc semanticType] def adapters : String := "capabilities"

@[inherit_doc semanticType] def validator : String := "_validator"

@[inherit_doc semanticType] def className : String := "__name__"

@[inherit_doc semanticType] def qualifiedName : String := "__qualname__"

@[inherit_doc semanticType] def home : String := "__module__"

@[inherit_doc semanticType] def description : String := "__doc__"

@[inherit_doc semanticType] def ofClass : String := "__class__"

@[inherit_doc semanticType] def all : String := "__dict__"

@[inherit_doc semanticType] def weakReference : String := "__weakref__"

end Attribute

end FilterAlgebra
