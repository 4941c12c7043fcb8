import FilterAlgebra.Adapter

/-!
# Building a filter

To build a filter is to record that it is built and over how much, to run a
builder, and to make sure that what the builder comes back with is a filter. The
builder may be any computation in which operands can be handled.
-/

set_option autoImplicit false

namespace FilterAlgebra

/-- The two designs in which operands reach their types. -/
inductive Design where
  | plain
  | unified
  deriving DecidableEq

/-- Runs a builder between the opening record and the check of what it comes back with. -/
def Operands.buildFilter {m : Type → Type} [Monad m] {O : Type} (operands : Operands m O)
    (opening : Record) (builder : m O) : m O := do
  operands.run (Traced.emit opening)
  let built ← builder
  operands.ensureFilter built

/-- The filter a builder makes of the operations of a bundle. -/
def Bundle.build (bundle : Bundle) (builder : Bundle → Traced Value) : Traced Value :=
  Operands.values.buildFilter bundle.opening (builder bundle)

/-- The filter a builder makes of the operations of a set of adapters. -/
def AdapterSet.build (set : AdapterSet) (builder : AdapterSet → Traced Value) : Traced Value :=
  Operands.values.buildFilter set.opening (builder set)

/-- The capabilities that are active unless others are given: integers, and texts in a style. -/
def defaultCapabilities (style : QuoteStyle) : List StandardCapability :=
  [.integer, .text style]

end FilterAlgebra
