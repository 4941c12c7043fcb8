import FilterAlgebra.Bundle

/-!
# Adapters

In the unified design every operand, raw or not, reaches its type through an
adapter. A raw adapter sends raw values through a capability; an identity adapter
takes the nodes of its type as they are. A comparison is made at the first type
at which both operands find an adapter, and a conjunction at the truth type.

`Search` states these rules for operands and types of any kind; a set of
adapters is the case of operands that are values.
-/

set_option autoImplicit false

namespace FilterAlgebra

/-- How operands of a kind `O` reach types of a kind `T`. -/
structure Search (m : Type → Type) (O T : Type) where
  /-- The types within reach, in the order of registration and without repetitions. -/
  targets : m (List T)
  /-- The type of filters. -/
  truth : m T
  /-- Whether an operand can become an expression of a type. -/
  reaches : O → T → m Bool
  /-- Joins two operands at a type, if both reach it. -/
  combine : O → String → O → T → m (Option O)

namespace Search

variable {m : Type → Type} [Monad m] {O A T : Type}

/-- The first of some adapters that leads to a type and accepts an operand. -/
def firstAccepting [DecidableEq T] (target : A → m T) (accepts : A → O → m Bool) (o : O) (type : T) :
    List A → m (Option A)
  | [] => return none
  | adapter :: rest => do
    if (← target adapter) = type then
      if ← accepts adapter o then return some adapter
      else firstAccepting target accepts o type rest
    else firstAccepting target accepts o type rest

/-- Joins two operands at a type, if there is an adapter to it for both. -/
def combineBy (resolve : O → T → m (Option A)) (convert : A → O → m O) (join : O → O → m O)
    (left right : O) (type : T) : m (Option O) := do
  let l ← resolve left type
  let r ← resolve right type
  match l, r with
  | some l, some r => do
    let left ← convert l left
    let right ← convert r right
    some <$> join left right
  | _, _ => return none

/-- Joins two operands at the first of some types that is within reach of both. -/
def combineFirst (search : Search m O T) (left : O) (sign : String) (right : O) :
    List T → m (Option O)
  | [] => return none
  | type :: rest => do
    match ← search.combine left sign right type with
    | some joined => return some joined
    | none => combineFirst search left sign right rest

/-- A raw operand on the left of a node is moved to its right. -/
def nodeFirst (operands : Operands m O) (left right : O) : m (O × O) := do
  let leftIsNode ← operands.isNode left
  let rightIsNode ← operands.isNode right
  return if !leftIsNode && rightIsNode then (right, left) else (left, right)

/-- The end of a comparison that finds no common type. The record needs both
inspection forms first. -/
def refuseComparison (operands : Operands m O) (left right : O) : m O := do
  let l ← operands.look left
  let r ← operands.look right
  let leftShown ← operands.check l.inspect
  let rightShown ← operands.check r.inspect
  operands.run (Traced.emit (.noCommonType l r leftShown rightShown))
  let leftClass ← operands.className left
  let rightClass ← operands.className right
  operands.refuse right (.noCommonType leftClass rightClass) none

/-- Compares two operands of which each may be raw. -/
def equate (search : Search m O T) (operands : Operands m O) (left right : O) : m O := do
  let (left, right) ← nodeFirst operands left right
  match ← search.combineFirst left equalitySign right (← search.targets) with
  | some joined => return joined
  | none => refuseComparison operands left right

/-- Which operand of a failed conjunction is to blame: the right one only if
the left one is in order. -/
def blame (search : Search m O T) (left right : O) : m O := do
  if ← search.reaches left (← search.truth) then return right else return left

/-- Joins two operands that can become filters. -/
def conjoin (search : Search m O T) (operands : Operands m O) (left right : O) : m O := do
  match ← search.combine left conjunctionSign right (← search.truth) with
  | some joined => return joined
  | none =>
    let bad ← search.blame left right
    operands.refuse bad (.noFilterConversion (← operands.className bad)) (some .bool)

end Search

/-- A way to turn operands of one shape into expressions of one type. -/
inductive Adapter where
  | raw (capability : Capability)
  | identity (type : SemanticType)

namespace Adapter

/-- The type an adapter leads to. -/
def target : Adapter → SemanticType
  | raw capability => capability.type
  | identity type => type

/-- Whether an operand has the shape of an adapter. Asking a node for its type may fail. -/
def accepts : Adapter → Value → Except Fault Bool
  | raw capability, v => .ok (!v.isNode && capability.accepts v)
  | identity type, v =>
    if v.isNode then do
      let actual ← v.semanticType
      return actual = type
    else .ok false

/-- Converts an operand. An identity adapter hands everything back unchanged. -/
def toExpression : Adapter → Value → Traced Value
  | raw capability, v => Value.node <$> capability.asExpression v
  | identity _, v => pure v

end Adapter

/-- The active adapters in the order of their registration. -/
structure AdapterSet where
  adapters : List Adapter

namespace AdapterSet

/-- The adapters of a bundle: for each capability the raw and the identity adapter of its type, and
in the end the identity adapter of the truth type, so that filters can be joined. -/
def ofBundle (bundle : Bundle) : AdapterSet :=
  ⟨bundle.capabilities.flatMap (fun c => [.raw c, .identity c.type]) ++ [.identity .bool]⟩

/-- The types of a list without repetitions, each in the place of its first occurrence. -/
def distinctTypes (types : List SemanticType) : List SemanticType :=
  types.foldl (fun seen type => if type ∈ seen then seen else seen ++ [type]) []

/-- The types within reach, in the order of registration. -/
def targetTypes (set : AdapterSet) : List SemanticType :=
  distinctTypes (set.adapters.map (·.target))

/-- The adapter for an operand that is to become an expression of a type. -/
def resolve (set : AdapterSet) (v : Value) (type : SemanticType) : Traced (Option Adapter) :=
  Search.firstAccepting (fun adapter => pure adapter.target)
    (fun adapter v => Traced.ofFault (adapter.accepts v)) v type set.adapters

/-- How values reach types through the adapters of a set. -/
def search (set : AdapterSet) : Search Traced Value SemanticType where
  targets := pure set.targetTypes
  truth := pure .bool
  reaches v type := Option.isSome <$> set.resolve v type
  combine left sign right :=
    Search.combineBy set.resolve Adapter.toExpression (Operands.values.join · sign ·) left right

/-- Compares two operands of which each may be raw. -/
def equate (set : AdapterSet) (left right : Value) : Traced Value :=
  set.search.equate Operands.values left right

/-- Joins two operands that can become filters. -/
def conjoin (set : AdapterSet) (left right : Value) : Traced Value :=
  set.search.conjoin Operands.values left right

/-- The record that opens the building of a filter. -/
def opening (set : AdapterSet) : Record :=
  .buildingUnified set.adapters.length

end AdapterSet

end FilterAlgebra
