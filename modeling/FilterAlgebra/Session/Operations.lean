import FilterAlgebra.Node.Ampersand
import FilterAlgebra.Number.Power
import FilterAlgebra.Session.Definition
import FilterAlgebra.Session.Invocation

/-!
# Operations on objects

An operation takes the objects of its operands, in a fixed order, and gives an
object. Some operations make objects, some combine them or tell about them, some
change them; all others ask the first operand for a method and call it with the rest.
-/

set_option autoImplicit false

namespace FilterAlgebra

/-- What can be done with operands. -/
inductive Operation where
  | list
  | tuple
  | attributeOf (name : String)
  /-- Calls a method of the first operand with the other operands. -/
  | request (action : Action)
  | property (kind : PropertyKind)
  | integer
  | string
  | literal (text : String)
  | binary (sign : String)
  | call (function : String)
  | equate
  | conjoin
  | ampersand
  | ensureFilter
  | display
  | inspect
  | setAttribute (name : String)
  | deleteAttribute (name : String)
  | setItem
  | identical
  | equal
  | distinct
  | capability (c : StandardCapability)
  | rawAdapter
  | identityAdapter
  | defaults
  | unifiedAdapters
  | bundle
  | adapterSet
  /-- A style from options of the given names. -/
  | style (names : List String)
  /-- A class of the given name, with bases and then attributes of the given names as operands. -/
  | define (name : String) (bases : Bases) (attributes : List String)
  | last
  | bind (name : String)
  deriving DecidableEq

namespace SessionM

/-- A new object of a standing class. -/
def newStanding (c : StandingClass) (operands : List Ref) : SessionM Ref :=
  construct call c.id { positional := operands }

/-- The literal that a new capability makes of a value. -/
def literalBy (c : StandardCapability) (value : Ref) : SessionM Ref := do
  SessionM.request call (← newCapability c none) .asExpression [value]

/-- What the class of an object keeps under a name answers to another object, unless there is nothing or
the answer is the one that says nothing. -/
def answerOf (name : String) (self other : Ref) : SessionM (Option Ref) := do
  let s ← get
  match s.slot? (s.classOf self) name with
  | some (c, slot) =>
    let answer ← call (← presented self (← slotObject c slot)) { positional := [other] }
    match (← get).content answer with
    | .token .noAnswer _ => return none
    | _ => return some answer
  | none => return none

/-- Whether the class of the right operand is asked first: one below that of the left operand is, if it
has another rule for operands on the left of its objects. -/
def rightGoesFirst (s : Session) (left right : Ref) : Bool :=
  let rule := fun id => (s.slot? id (Action.name .conjoinAfter)).map (·.1)
  let (ofLeft, ofRight) := (s.classOf left, s.classOf right)
  ofLeft ≠ ofRight && (s.hierarchy.lineage ofRight).contains ofLeft && rule ofLeft ≠ rule ofRight

/-- What the classes of two objects make of the sign. Two objects of one class are not asked twice. -/
def signAnswers : SignAnswers SessionM Ref where
  ofLeft left right := do
    if rightGoesFirst (← get) left right then return none
    else answerOf (Action.name .conjoinWith) left right
  ofRight left right := do
    let s ← get
    if s.classOf left = s.classOf right then return none
    else
      match ← answerOf (Action.name .conjoinAfter) right left with
      | some answer => return some answer
      | none =>
        if rightGoesFirst s left right then answerOf (Action.name .conjoinWith) left right else return none
  neither left right := do
    let s ← get
    fault (.unsupportedOperands "&" (s.typeName left) (s.typeName right))

/-- The place in a list that an integer means: counted from the end if it is negative. -/
def placeOf (length : Nat) (keyType : String) (n : Int) : Except Fault Nat :=
  if n < -twoTo 63 ∨ twoTo 63 ≤ n then .error (.indexTooLarge keyType)
  else
    let i := if n < 0 then n + length else n
    if 0 ≤ i ∧ i < length then .ok i.toNat else .error (.indexOutOfRange "list assignment ")

/-- Whether objects of a class are asked for items by their places. Of the classes that never change
only some are. -/
def isSequence (id : ClassId) : Bool :=
  !isFixed id || [some SemanticType.str, some .bytes, some .tuple].contains (Hierarchy.builtIn? id) ||
    [some StandingClass.listing, some .frozenSet, some .mutableSet].contains (StandingClass.ofId? id)

/-- Sets the item of an object under a key. -/
def setItem (container key item : Ref) : SessionM Unit := do
  let s ← get
  match s.content container with
  | .dict entries => do setContent container (.dict (← (s.putHashable key item entries : SessionM _)))
  | .list items =>
    match (s.value key).index? with
    | some n =>
      let i ← (placeOf items.length (s.typeName key) n : SessionM Nat)
      setContent container (.list (items.set i item))
    | none => fault (.notAnIndex (s.typeName key))
  | _ =>
    match (s.value key).index? with
    | some n =>
      if isSequence (s.classOf container) && (n < -twoTo 63 || twoTo 63 ≤ n) then
        fault (.indexTooLarge (s.typeName key))
      else fault (.noItemAssignment (s.typeName container))
    | none => fault (.noItemAssignment (s.typeName container))

/-- A style from options. -/
def newStyle (names : List String) (options : List Ref) : SessionM Ref :=
  construct call StandingClass.style.id { positional := [], named := Table.ofEntries (names.zip options) }

end SessionM

open SessionM in
/-- Performs an operation on the objects of its operands. -/
def Operation.perform (operation : Operation) (operands : List Ref) : SessionM Ref := do
  match operation, operands with
  | list, items => newObject (.list items) []
  | tuple, items => newTuple items
  | attributeOf name, [r] => SessionM.attributeOf r name
  | request action, r :: rest => SessionM.request SessionM.call r action rest
  | property kind, [name] => newStanding (.ofProperty kind) [name]
  | integer, [v] => literalBy .integer v
  | string, [v] => literalBy (.text {}) v
  | literal text, [type] => newStanding .literal [type, ← newText text]
  | binary sign, l :: rest => newStanding .binary (l :: (← newText sign) :: rest)
  | call function, [operand, type] => newStanding .call [← newText function, operand, type]
  | equate, [l, r] => SessionM.operands.equate l r
  | conjoin, [l, r] => SessionM.operands.conjoin l r
  | ampersand, [l, r] => signAnswers.join l r
  | ensureFilter, [v] => SessionM.operands.ensureFilter v
  | display, [v] => textObjectOf SessionM.call v
  | inspect, [v] => newText (← ((← valueOf v).inspect : SessionM String))
  | setAttribute name, [r, content] => do SessionM.setAttribute r name content; absent
  | deleteAttribute name, [r] => do SessionM.deleteAttribute r name; absent
  | setItem, [container, key, item] => do SessionM.setItem container key item; absent
  | identical, [a, b] => newAtom (.bool (a == b))
  | equal, [a, b] => newAtom (.bool (← ((← get).equal a b : SessionM Bool)))
  | distinct, items => newAtom (.int (← ((← get).distinct items : SessionM _)).length)
  | capability c, given => newCapability c given.head?
  | rawAdapter, [c] => newRawAdapter c
  | identityAdapter, [type] => newIdentityAdapter type
  | defaults, given => newDefaults given.head?
  | unifiedAdapters, [capabilities] => SessionM.unifiedAdapters SessionM.call capabilities
  | bundle, [capabilities] => newBundle capabilities
  | adapterSet, [adapters] => newAdapterSet adapters
  | style names, options => newStyle names options
  | define name bases attributes, operands => SessionM.define SessionM.call name bases attributes operands
  | last, items => match items.getLast? with
    | some r => return r
    | none => absent
  | bind name, [r] => do bindName name r; return r
  | _, _ => fault .wrongOperands

end FilterAlgebra
