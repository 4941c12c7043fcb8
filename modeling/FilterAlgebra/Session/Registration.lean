import FilterAlgebra.Capability.Form.Reading
import FilterAlgebra.Session.Equality
import FilterAlgebra.Session.Prelude

/-!
# Registering classes

The class of a new kind of capabilities that declares a form of what it accepts gets
the test for that form, and a property set gets its collected properties. Both happen
when the class is defined, and can be asked for again.
-/

set_option autoImplicit false

namespace FilterAlgebra.SessionM

/-- The capabilities that have a form of what they accept. -/
def formedCapabilities : List StandardCapability :=
  StandingClass.added.filterMap fun c => c.capability?.filter fun served => served.form?.isSome

/-- The test for what a form describes: that of a capability of the catalogue, if it has the form. -/
def testOfForm (form : Ref) : SessionM CapabilityTest := do
  let found ← formedCapabilities.findM? fun served => do
    let known ← newValue ((served.form?).getD .none)
    ((← get).equal form known : SessionM Bool)
  match found with
  | some served => return .ofCatalogue served
  | none => return .ofForm (← (Form.ofValue (← valueOf form) : SessionM Form))

/-- Gives the class of a kind of capabilities the test for the form that it declares itself. -/
def registerForm (id : ClassId) : SessionM Unit := do
  match (← get).own? id "source_schema" with
  | some form =>
    if (← get).isNone form then return ()
    else
      setOwn id Attribute.validator (← newObject (.validator (← testOfForm form)) [])
  | none => return ()

/-- Collects the properties of a property set. -/
def registerProperties (id : ClassId) : SessionM Unit := do
  let s ← get
  let h := s.hierarchy
  let name := h.name id
  let properties ← ofTraced (Traced.ofExcept
    (Hierarchy.collectFor s.property? h name (h.lineage id).tail (h.own id)))
  ofTraced (Traced.emit (.registered properties.length name))
  setHierarchy (h.modify id fun record =>
    { record with own := record.own.put Hierarchy.collectedName (.collected properties) })
  share (.collectedOf id) (← newObject (← newListing properties) [])

/-- Registers a class with the standing classes above it that ask for it, the last one first. -/
def register (id : ClassId) : SessionM Unit := do
  let above := (((← get).hierarchy.lineage id).tail.filterMap StandingClass.ofId?).reverse
  for c in above do
    if c = .capability then registerForm id
    else if c = .propertySet then registerProperties id

end FilterAlgebra.SessionM
