import FilterAlgebra.Issue
import FilterAlgebra.Value

/-!
# Failures

Every operation that can fail says why by a cause. An operand that cannot be used
where it stands is refused, and the refusal carries the operand, the semantic type
that was required and, where a capability rejected it, the issues it found. A
property set is not defined if two of its properties have one name, and a style is
not made of options that have issues. All else is a fault. Each cause is put into
words in one place.
-/

set_option autoImplicit false

namespace FilterAlgebra

/-- Why an operand is refused. -/
inductive Refusal where
  /-- Only expressions can be compared. -/
  | notExpression (operand : String)
  /-- Only expressions of one type can be compared. -/
  | differentTypes (left right : String)
  /-- Only filters can be joined. -/
  | notFilter (operand : String)
  /-- A builder has to come back with a filter. -/
  | builtNoFilter (operand : String)
  /-- The capability of the target type rejects the value. -/
  | noConversion (className target : String)
  /-- No capability serves the target type. -/
  | noCapability (target : String)
  /-- An expression of one type stands where another is required. -/
  | wrongType (actual required : String)
  /-- No capability accepts the value. -/
  | acceptedByNone (className : String)
  /-- No type is within reach of both operands. -/
  | noCommonType (left right : String)
  /-- The operand cannot become a filter. -/
  | noFilterConversion (className : String)
  deriving DecidableEq

/-- A refusal in words. -/
def Refusal.message : Refusal → String
  | notExpression operand => "Cannot compare " ++ operand ++ ": operand is not an expression"
  | differentTypes left right =>
    "Cannot compare " ++ left ++ " with " ++ right
  | notFilter operand => "Cannot use " ++ operand ++ " as a filter"
  | builtNoFilter operand => "Filter builder returned " ++ operand ++ ", expected a filter"
  | noConversion className target => "No conversion from " ++ className ++ " to " ++ target
  | noCapability target => "No capability for " ++ target ++ " is active in this scope"
  | wrongType actual required =>
    "Expression of type " ++ actual ++ " used where " ++ required ++ " is required"
  | acceptedByNone className => "No active capability converts " ++ className
  | noCommonType left right =>
    "No active capabilities convert " ++ left ++ " and " ++ right ++ " to a common type"
  | noFilterConversion className => "No active capability converts " ++ className ++ " to a filter"

/-- Why an operation fails. -/
inductive Failure where
  | refused (why : Refusal) (operand : Value) (target : Option SemanticType)
      (issues : Option (List Issue))
  /-- Two attributes of a property set declare one property. -/
  | declaredTwice (set first second property : String)
  /-- What was given has issues. -/
  | invalid (issues : List Issue)
  | fault (f : Fault)

/-- A failure in words. -/
def Failure.message : Failure → String
  | refused why .. => why.message
  | declaredTwice set first second property =>
    set ++ ": attributes '" ++ first ++ "' and '" ++ second ++ "' both declare property '" ++
      property ++ "'"
  | invalid issues => counted issues.length "validation error"
  | fault f => f.message

/-- Every fault is a failure. -/
instance : MonadLift (Except Fault) (Except Failure) where
  monadLift outcome := outcome.mapError .fault

end FilterAlgebra
