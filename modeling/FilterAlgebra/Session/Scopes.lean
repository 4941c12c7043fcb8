import FilterAlgebra.Session.Capabilities
import FilterAlgebra.Session.Equality

/-!
# Scopes as objects

Bundles and sets of adapters follow the rules of `Lifting` and `Search`, with objects
for operands, capabilities and adapters. Whatever such a rule asks of a member is a
call of a method of the member, and whatever it asks of the scope itself is one of a
method of the scope.
-/

set_option autoImplicit false

namespace FilterAlgebra.SessionM

/-- The items of an object as a tuple; a tuple is one already. -/
def tupleOf (r : Ref) : SessionM Ref := do
  let s ← get
  match s.content r, s.below? r with
  | .tuple _, none => return r
  | _, _ => do newTuple (← itemsOf r)

/-- Members by their semantic types with one more, which only counts if it is the first of its type. -/
def addMember (entries : List (Ref × Ref)) (member : Ref) : SessionM (List (Ref × Ref)) := do
  let type ← attributeOf member Attribute.semanticType
  let s ← get
  match ← (s.find? type entries : SessionM (Option Ref)) with
  | some _ => return entries
  | none => (s.putHashable type member entries : SessionM _)

/-- Members by their semantic types. -/
def membersByType (members : List Ref) : SessionM (List (Ref × Ref)) :=
  members.foldlM addMember []

/-- Gives an object the capabilities of a bundle. Every member must have a semantic type. -/
def setUpBundle (scope capabilities : Ref) : SessionM Unit := do
  let members ← tupleOf capabilities
  putAttribute scope Attribute.capabilities members
  let byType ← newObject (.dict []) []
  putAttribute scope Attribute.byType byType
  setContent byType (.dict (← membersByType (← itemsOf members)))

/-- Gives an object the members of a set of adapters, which are taken as they come. -/
def setUpAdapterSet (scope adapters : Ref) : SessionM Unit := do
  putAttribute scope Attribute.adapters (← tupleOf adapters)

/-- Gives an object the capability of a raw adapter and its type. -/
def setUpRawAdapter (adapter capability : Ref) : SessionM Unit := do
  putAttribute adapter Attribute.capability capability
  putAttribute adapter Attribute.target (← attributeOf capability Attribute.semanticType)

/-- A new bundle of capabilities. -/
def newBundle (capabilities : Ref) : SessionM Ref := do
  let scope ← newObject (.object StandingClass.bundle.id) []
  setUpBundle scope capabilities
  return scope

/-- A new set of adapters. -/
def newAdapterSet (adapters : Ref) : SessionM Ref := do
  let scope ← newObject (.object StandingClass.adapterSet.id) []
  setUpAdapterSet scope adapters
  return scope

/-- A new raw adapter of a capability. -/
def newRawAdapter (capability : Ref) : SessionM Ref := do
  let adapter ← newObject (.object StandingClass.rawAdapter.id) []
  setUpRawAdapter adapter capability
  return adapter

/-- A new identity adapter of a type. -/
def newIdentityAdapter (target : Ref) : SessionM Ref :=
  newObject (.object StandingClass.identityAdapter.id) [(Attribute.target, target)]

/-- The items of an attribute of an object. -/
def membersOf (r : Ref) (name : String) : SessionM (List Ref) := do
  itemsOf (← attributeOf r name)

section Calls

variable (call : Caller)

/-- Whether an adapter or a capability says that it accepts an operand. -/
def isAccepted (member operand : Ref) : SessionM Bool := do
  truthOf (← request call member .accepts [operand])

/-- The two adapters of a capability. -/
def adaptersOf (capability : Ref) : SessionM (List Ref) := do
  let raw ← request call capability .unify []
  let identity ← newIdentityAdapter (← attributeOf capability Attribute.semanticType)
  return [raw, identity]

/-- The adapters of some capabilities, and that of the truth type after them. -/
def unifiedAdapters (capabilities : Ref) : SessionM Ref := do
  let adapters ← (← itemsOf capabilities).mapM (adaptersOf call)
  let last ← newIdentityAdapter (← typeObject .bool)
  newTuple (adapters.flatten ++ [last])

/-- What a raw adapter says of whether it accepts an operand: what its capability says, if the
operand is no node. -/
def rawAccepts (adapter operand : Ref) : SessionM Ref := do
  if (← get).isNode operand then newAtom (.bool false)
  else request call (← attributeOf adapter Attribute.capability) .accepts [operand]

/-- Whether an identity adapter accepts an operand: a node of the very type of the adapter. -/
def identityAccepts (adapter operand : Ref) : SessionM Ref := do
  if (← get).isNode operand then
    let type ← attributeOf operand Attribute.semanticType
    newAtom (.bool (type == (← attributeOf adapter Attribute.target)))
  else newAtom (.bool false)

/-- What stands under a key in an object that has items, if the object is a
mapping without the key. -/
def entryUnder? (r key : Ref) : SessionM (Option Ref) := do
  match ← entriesOf? r with
  | some entries => ((← get).find? key entries : SessionM (Option Ref))
  | none => do
    let s ← get
    fault (s.indexFault r (s.typeName key))

/-- The member of a bundle that serves a type. -/
def capabilityIn (scope type : Ref) : SessionM Ref := do
  match ← entryUnder? (← attributeOf scope Attribute.byType) type with
  | some capability => return capability
  | none =>
    let target ← typeOf type
    let name ← (target.name : SessionM String)
    refuse (← absent) (.noCapability name) (some target)

/-- How a bundle converts operands. -/
def liftingOf (scope : Ref) : Lifting SessionM Ref Ref where
  members := membersOf scope Attribute.capabilities
  capabilityFor type := do request call scope .capabilityFor [← typeObject type]
  accepts := isAccepted call
  convert capability operand := request call capability .asExpression [operand]

/-- Turns an operand into an expression, of a given type unless none is required. -/
def liftIn (scope operand : Ref) (type? : Option Ref) : SessionM Ref := do
  let type ← match type? with
    | some type => typeOf type
    | none => pure .absent
  (liftingOf call scope).lift operands operand type

/-- Compares two operands in a bundle. -/
def equateIn (scope left right : Ref) : SessionM Ref :=
  operands.equateLifting (fun operand type => do
    let type? ← if type = .absent then pure none else some <$> typeObject type
    request call scope .lift (operand :: type?.toList)) left right

/-- Types together with that of an adapter, unless it is among them. -/
def addTarget (seen : List Ref) (adapter : Ref) : SessionM (List Ref) := do
  let type ← attributeOf adapter Attribute.target
  let known ← ((← get).contains type seen : SessionM Bool)
  return if known then seen else seen ++ [type]

/-- The types within reach of a set of adapters, each once, in the order of registration. -/
def targetTypes (scope : Ref) : SessionM Ref := do
  let types ← (← membersOf scope Attribute.adapters).foldlM addTarget []
  newObject (.list types) []

/-- The member of a set of adapters that takes an operand to a type, or the absent value. -/
def resolveIn (scope operand type : Ref) : SessionM Ref := do
  let members ← membersOf scope Attribute.adapters
  match ← Search.firstAccepting (attributeOf · Attribute.target) (isAccepted call) operand type members with
  | some adapter => return adapter
  | none => absent

/-- What an object is, unless it is the absent value. -/
def present? (r : Ref) : SessionM (Option Ref) := do
  return if (← get).isNone r then none else some r

/-- Joins two operands at a type by what a set of adapters finds for them, or gives the absent
value. -/
def combineIn (scope left sign right type : Ref) : SessionM Ref := do
  let resolve := fun operand type => do present? (← request call scope .resolve [operand, type])
  let convert := fun adapter operand => request call adapter .toExpression [operand]
  let join := fun left right => do newBinary left sign right (← typeObject .bool)
  match ← Search.combineBy resolve convert join left right type with
  | some joined => return joined
  | none => absent

/-- How operands reach types through a set of adapters. -/
def searchOf (scope : Ref) : Search SessionM Ref Ref where
  targets := do itemsOf (← request call scope .targetTypes [])
  truth := typeObject .bool
  reaches operand type := Option.isSome <$> do present? (← request call scope .resolve [operand, type])
  combine left sign right type := do
    present? (← request call scope .combine [left, ← wordObject sign, right, type])

/-- Compares two operands in a set of adapters. -/
def equateUnified (scope left right : Ref) : SessionM Ref :=
  (searchOf call scope).equate operands left right

/-- Joins two operands in a set of adapters. -/
def conjoinUnified (scope left right : Ref) : SessionM Ref :=
  (searchOf call scope).conjoin operands left right

/-- The capabilities that a filter is built over: those given, or else the defaults. -/
def capabilitiesFor (capabilities? style? : Option Ref) : SessionM Ref := do
  match capabilities? with
  | some given => if (← get).isNone given then newDefaults style? else return given
  | none => newDefaults style?

/-- Builds a filter for a receiver in the scope of a design. -/
def buildIn (design : Design) (receiver : Ref) (capabilities? style? : Option Ref)
    (builder : Ref → Ref → SessionM Ref) : SessionM Ref := do
  let capabilities ← capabilitiesFor capabilities? style?
  match design with
  | .plain =>
    let scope ← newBundle capabilities
    let members ← membersOf scope Attribute.capabilities
    operands.buildFilter (.building members.length) (builder scope receiver)
  | .unified =>
    let scope ← newAdapterSet (← unifiedAdapters call capabilities)
    let members ← membersOf scope Attribute.adapters
    operands.buildFilter (.buildingUnified members.length) (builder scope receiver)

end Calls

end FilterAlgebra.SessionM
