import FilterAlgebra.Session.Operations

/-!
# Scripts

A script says how to get at an object: a constant, a number still to be read, a
name, an operation on what other scripts give, or the building of a filter.
Operands are evaluated from left to right. The script of a builder is evaluated
only while its filter is built, with names for the scope and the receiver.
-/

set_option autoImplicit false

namespace FilterAlgebra

/-- How to get at an object. -/
inductive Script where
  | constant (v : Value)
  | type (t : SemanticType)
  /-- The integer that a text reads as. -/
  | integer (text : String)
  /-- The integer that a text reads as, shown under a fixed label. -/
  | customInteger (text : String)
  /-- The decimal that a text reads as. -/
  | decimal (text : String)
  | reference (name : String)
  /-- A mapping of keys to values. -/
  | dict (entries : List (Script × Script))
  | apply (operation : Operation) (operands : List Script)
  /-- Builds a filter for any receiver. -/
  | build (design : Design) (receiver builder : Script) (capabilities style : Option Script)
  /-- Builds a filter for a property set by its own method. -/
  | buildOn (design : Design) (receiver builder : Script) (capabilities style : Option Script)

namespace Script

/-- The name of the scope within a builder. -/
def scopeName : String := "s"

/-- The name of the receiver within a builder. -/
def receiverName : String := "p"

/-- The names within a builder. -/
def builderNames (locals : Table Ref) (scope receiver : Ref) : Table Ref :=
  (scopeName, scope) :: (receiverName, receiver) :: locals

/-- Named operands, as far as they are given. -/
def namedOperands (capabilities? style? : Option Ref) : Table Ref :=
  (capabilities?.map (Attribute.capabilities, ·)).toList ++ (style?.map (Attribute.style, ·)).toList

/-- Calls an object with a builder. -/
def callWithBuilder (r : Ref) (capabilities? style? : Option Ref)
    (builder : Ref → Ref → SessionM Ref) : SessionM Ref := do
  let build ← SessionM.newObject .builder []
  SessionM.call r
    { positional := [build], named := namedOperands capabilities? style?, builder? := some builder }

mutual

/-- Evaluates a script, given the names of the builders around it. -/
def eval (locals : Table Ref) : Script → SessionM Ref
  | constant v => SessionM.newAtom v
  | type t => SessionM.typeObject t
  | integer text => do SessionM.newAtom (.int (← ((Value.str text).toInteger : SessionM Int)))
  | customInteger text => do
    SessionM.newAtom (.customInt (← ((Value.str text).toInteger : SessionM Int)))
  | decimal text => do SessionM.newAtom (.decimal (← (Value.decimalRead text : SessionM Decimal)))
  | reference name => SessionM.reference locals name
  | dict entries => do SessionM.newObject (.dict (← evalEntries locals [] entries)) []
  | apply operation operands => do operation.perform (← evalAll locals operands)
  | build design receiver builder capabilities style => do
    let receiver ← receiver.eval locals
    let capabilities? ← evalOption locals capabilities
    let style? ← evalOption locals style
    SessionM.buildIn SessionM.call design receiver capabilities? style? fun scope receiver =>
      builder.eval (builderNames locals scope receiver)
  | buildOn design receiver builder capabilities style => do
    let receiver ← receiver.eval locals
    let method ← SessionM.attributeOf receiver (Action.filter design).name
    let capabilities? ← evalOption locals capabilities
    let style? ← evalOption locals style
    callWithBuilder method capabilities? style? fun scope receiver =>
      builder.eval (builderNames locals scope receiver)

/-- Evaluates scripts from left to right. -/
def evalAll (locals : Table Ref) : List Script → SessionM (List Ref)
  | [] => return []
  | script :: rest => do
    let first ← script.eval locals
    let others ← evalAll locals rest
    return first :: others

/-- Evaluates entries from left to right, and puts each one in before the next is evaluated. -/
def evalEntries (locals : Table Ref) (entries : List (Ref × Ref)) :
    List (Script × Script) → SessionM (List (Ref × Ref))
  | [] => return entries
  | (key, value) :: rest => do
    let key ← key.eval locals
    let value ← value.eval locals
    let entries ← ((← get).putHashable key value entries : SessionM _)
    evalEntries locals entries rest

/-- Evaluates a script that may be left out. -/
def evalOption (locals : Table Ref) : Option Script → SessionM (Option Ref)
  | none => return none
  | some script => do return some (← script.eval locals)

end

end Script

end FilterAlgebra
