import FilterAlgebra.Build
import FilterAlgebra.Capability.Standard

/-!
# Blueprints

A blueprint is a builder as data: operands, compared and joined. It is evaluated
from left to right by the comparison and the conjunction of a scope, so one
blueprint can be built over a bundle and over the adapters of the bundle, and the
two filters can be compared.
-/

set_option autoImplicit false

namespace FilterAlgebra

/-- The two ways in which a scope joins operands. -/
structure Operators where
  equate : Value → Value → Traced Value
  conjoin : Value → Value → Traced Value

/-- How a bundle joins operands. -/
def Bundle.operators (bundle : Bundle) : Operators :=
  ⟨bundle.equate, bundle.conjoin⟩

/-- How a set of adapters joins operands. -/
def AdapterSet.operators (set : AdapterSet) : Operators :=
  ⟨set.equate, set.conjoin⟩

/-- A builder as data. -/
inductive Blueprint where
  | operand (v : Value)
  | equality (left right : Blueprint)
  | conjunction (left right : Blueprint)

namespace Blueprint

/-- What a blueprint comes to: an operand as it is, a join of what its sides come to. -/
def eval (operators : Operators) : Blueprint → Traced Value
  | operand v => pure v
  | equality left right => do
    let l ← left.eval operators
    let r ← right.eval operators
    operators.equate l r
  | conjunction left right => do
    let l ← left.eval operators
    let r ← right.eval operators
    operators.conjoin l r

/-- The filter of a blueprint over a bundle. -/
def build (blueprint : Blueprint) (bundle : Bundle) : Traced Value :=
  bundle.build fun bundle => blueprint.eval bundle.operators

/-- The filter of a blueprint over the adapters of a bundle. -/
def buildUnified (blueprint : Blueprint) (bundle : Bundle) : Traced Value :=
  (AdapterSet.ofBundle bundle).build fun set => blueprint.eval set.operators

end Blueprint

/-- Capabilities of the catalogue as a bundle. -/
def Bundle.ofStandard (capabilities : List StandardCapability) : Bundle :=
  ⟨capabilities.map StandardCapability.toCapability⟩

/-- The bundle that is active unless another is given. -/
def Bundle.default (style : QuoteStyle) : Bundle :=
  Bundle.ofStandard (defaultCapabilities style)

end FilterAlgebra
