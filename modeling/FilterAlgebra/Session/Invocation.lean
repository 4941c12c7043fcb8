import FilterAlgebra.Session.Instantiation
import FilterAlgebra.Session.Native
import FilterAlgebra.Session.Registration

/-!
# Calls carried out

Here is what each function does, by the class that defines it. Functions call other
functions, and a node may hold what is rendered by any of them, so nothing but a bound
on their depth keeps calls from going on; `call` has one that no session comes near.
-/

set_option autoImplicit false

namespace FilterAlgebra.SessionM

section Calls

variable (call : Caller)

/-- The text that an operand of a node is rendered to. -/
def renderedOperand (node : Ref) (name : String) : SessionM String := do
  displayOf call (← request call (← attributeOf node name) .render [])

/-- The query text of a node, each of its operands asked for its own. The class above all nodes
leaves it open. -/
def render (owner : StandingClass) (node : Ref) : SessionM Ref := do
  match owner with
  | .property => attributeOf node Attribute.name
  | .literal => attributeOf node Attribute.text
  | .call =>
    let function ← displayOf call (← attributeOf node Attribute.name)
    newText (Rendering.call function (← renderedOperand call node Attribute.operand))
  | .binary =>
    let left ← renderedOperand call node Attribute.left
    let sign ← displayOf call (← attributeOf node Attribute.sign)
    newText (Rendering.binary left sign (← renderedOperand call node Attribute.right))
  | _ => absent

/-- The builder that a call is given: what it comes with, or else the operand
itself, which is called. -/
def builderOf (build : Ref) (args : Arguments) : Ref → Ref → SessionM Ref :=
  args.builder?.getD fun scope receiver => call build { positional := [scope, receiver] }

/-- What the functions of property sets do. -/
def performOnSet (action : Action) (self : Ref) (operands : List Ref) (args : Arguments) : SessionM Ref := do
  match action, operands with
  | .properties, [] => attributeOf self Hierarchy.collectedName
  | .filter design, [build] =>
    buildIn call design self (args.named.get? Attribute.capabilities) (args.named.get? Attribute.style)
      (builderOf call build args)
  | _, _ => fault .wrongOperands

/-- What the functions of capabilities do. -/
def performOnCapability (owner : StandingClass) (action : Action) (self : Ref) (operands : List Ref) :
    SessionM Ref := do
  match action, operands with
  | .accepts, [v] => accepts call self v
  | .asExpression, [v] => literalOf call self v
  | .format, [v] => format call owner self v
  | .validate, [v] => validate call self v
  | .unify, [] => newRawAdapter self
  | _, _ => fault .wrongOperands

/-- What the functions of adapters and of scopes do. -/
def performOnScope (owner : StandingClass) (action : Action) (self : Ref) (operands : List Ref) :
    SessionM Ref := do
  match owner, action, operands with
  | .adapter, .accepts, [_] | .adapter, .toExpression, [_] => absent
  | .rawAdapter, .accepts, [v] => rawAccepts call self v
  | .rawAdapter, .toExpression, [v] =>
    request call (← attributeOf self Attribute.capability) .asExpression [v]
  | .identityAdapter, .accepts, [v] => identityAccepts self v
  | .identityAdapter, .toExpression, [v] => return v
  | .bundle, .capabilityFor, [type] => capabilityIn self type
  | .bundle, .lift, [v] => liftIn call self v none
  | .bundle, .lift, [v, type] => liftIn call self v (some type)
  | .bundle, .equate, [l, r] => equateIn call self l r
  | .bundle, .conjoin, [l, r] => SessionM.operands.conjoin l r
  | .adapterSet, .targetTypes, [] => targetTypes self
  | .adapterSet, .resolve, [v, type] => resolveIn call self v type
  | .adapterSet, .combine, [l, sign, r, type] => combineIn call self l sign r type
  | .adapterSet, .equateUnified, [l, r] => equateUnified call self l r
  | .adapterSet, .conjoinUnified, [l, r] => conjoinUnified call self l r
  | _, _, _ => fault .wrongOperands

/-- Whether an object is equal to another as a class compares its objects, which says nothing about
objects of other classes. -/
def sameAs (owner : StandingClass) (self other : Ref) : SessionM Ref := do
  let s ← get
  if s.classOf self = s.classOf other then
    newAtom (.bool (← (Equality.sameObjects s s.equal owner self other : SessionM Bool)))
  else newToken .noAnswer "NotImplemented"

/-- Whether a class refuses that an object changes what it has under a name. -/
def refuses (s : Session) (owner : StandingClass) (self : Ref) (name : String) : Bool :=
  owner.id = s.classOf self || ((owner.fields?).getD []).contains name

/-- What the functions do that objects of many classes have. -/
def performCommon (f : Function) (self : Ref) (operands : List Ref) : SessionM Ref := do
  let s ← get
  match f.action, operands with
  | .checkName, [] => checkName self
  | .inspect, [] =>
    match s.madeOf? self with
    | some _ =>
      if f.owner.isLabel then newText (← ((← valueOf self).held.inspect : SessionM String))
      else newText (← (s.inspectAs f.owner self : SessionM String))
    | none => do newText (← ((← valueOf self).inspect : SessionM String))
  | .display, [] =>
    if f.owner = .expression then request call self .render [] else newText (← displayOf call self)
  | .sameAs, [other] => sameAs f.owner self other
  | .refuseChange, [name, content] =>
    let name := s.textOf name
    if f.owner = .model then setAttribute self name content
    else if refuses s f.owner self name then fault (.frozenField false name)
    else setPart self name content
    absent
  | .refuseDeletion, [name] =>
    let name := s.textOf name
    if f.owner = .model then deleteAttribute self name
    else if refuses s f.owner self name then fault (.frozenField true name)
    else deletePart self name
    absent
  | .conjoinWith, [other] => SessionM.operands.conjoin self other
  | .conjoinAfter, [other] => SessionM.operands.conjoin other self
  | .register, [] =>
    match s.content self with
    | .type id => do
      if f.owner = .capability then registerForm id else register id
      absent
    | _ => fault .wrongOperands
  | .quote, [v] => quote call self v
  | .other "replace", _ => newText Text.customLabel
  | _, _ => fault .wrongOperands

/-- What a function does with its operands. -/
def perform (f : Function) (self : Ref) (others : List (Option Ref)) (args : Arguments) : SessionM Ref := do
  let operands := others.filterMap id
  match f.owner, f.action with
  | owner, .setUp => setUp call owner self others args.named
  | owner, .render => render call owner self
  | .propertySet, action =>
    if action = .register then performCommon call f self operands
    else performOnSet call action self operands args
  | owner, action =>
    let ofCapability := owner = .capability || owner.capability?.isSome
    if ofCapability && [Action.accepts, .asExpression, .format, .validate, .unify].contains action then
      performOnCapability call owner action self operands
    else if ([StandingClass.adapter, .rawAdapter, .identityAdapter, .bundle, .adapterSet].contains owner) &&
        action ≠ .inspect then
      performOnScope call owner action self operands
    else performCommon call f self operands

/-- Calls a function. -/
def callFunction (r : Ref) (f : Function) (args : Arguments) : SessionM Ref := do
  let s ← get
  let arranged ← (f.arrange (s.functionName r f) args.positional args.named : SessionM (List (Option Ref)))
  match arranged with
  | some self :: others => perform call f self others args
  | _ => fault .wrongOperands

/-- Calls an object that consists of attributes: its class says what that means. -/
def callObject (r : Ref) (id : ClassId) (args : Arguments) : SessionM Ref := do
  let s ← get
  match s.slot? id "__call__" with
  | some (c, slot) => do call (← presented r (← slotObject c slot)) args
  | none => fault (.notCallable (s.typeName r))

end Calls

/-- Calls an object, with calls nested at most to the given depth. -/
def callWithin : Nat → Caller
  | 0, _, _ => fault .wrongOperands
  | depth + 1, r, args => do
    let s ← get
    let call := callWithin depth
    match s.content r, s.madeOf? r with
    | .function f, _ => callFunction call r f args
    | .method function self, _ => call function { args with positional := self :: args.positional }
    | .type id, _ => construct call id args
    | .containerOf type _, _ => call type args
    | .member m, _ => callUnbound call m args
    | .boundMember m self, _ => callMember call m self args
    | _, some id => callObject call r id args
    | _, none => fault (.notCallable (s.typeName r))

/-- The greatest depth of nested calls. -/
def callDepth : Nat := 100000

/-- Calls an object. -/
def call : Caller :=
  callWithin callDepth

end FilterAlgebra.SessionM
