import FilterAlgebra.Build
import FilterAlgebra.Capability.Standard
import FilterAlgebra.Session.FormTest

/-!
# Capabilities as objects

A capability is asked for its test and for its way of writing by name, so either can
be replaced by an attribute of its own or of a class below. What it needs besides, its
style and its semantic type, it takes from its attributes at the moment when it needs
them.
-/

set_option autoImplicit false

namespace FilterAlgebra.SessionM

section Calls

variable (call : Caller)

/-- Tests an object by the test of a capability: what passed, or the issues. -/
def outcomeOfTest (test : CapabilityTest) (value : Ref) : SessionM (Verdict Ref) := do
  match test with
  | .ofCatalogue c =>
    match c.validate (← valueOf value) with
    | .ok plain => return .ok (← newPlain plain)
    | .error issues => return .error issues
  | .ofForm form => return Fitting.content <$> (← testByForm call form value)

/-- Tests an object by the test of a capability. What does not pass has issues. -/
def pass (test : CapabilityTest) (value : Ref) : SessionM Ref := do
  match ← outcomeOfTest call test value with
  | .ok passed => return passed
  | .error issues => fail (.invalid issues)

/-- Tests a value by the test that a capability keeps. -/
def validate (capability value : Ref) : SessionM Ref := do
  ask call (← attributeOf capability Attribute.validator) "validate_python" [value]

/-- The outcome of a test by a capability: what passed, or the issues. -/
def tested (capability value : Ref) : SessionM (Except (List Issue) Ref) :=
  tryCatch (Except.ok <$> request call capability .validate [value]) fun setback =>
    match setback.failure with
    | .invalid issues => return .error issues
    | _ => throw setback

/-- Whether a capability accepts a value. -/
def accepts (capability value : Ref) : SessionM Ref := do
  newAtom (.bool (← tested call capability value).isOk)

/-- Rejects a value. The record needs the inspection form of the value first, and the refusal the
name of the type after it. -/
def reject (capability value : Ref) (issues : List Issue) : SessionM Ref := do
  let s ← get
  let v ← valueOf value
  let shown ← (v.inspect : SessionM String)
  ofTraced (Traced.emit (.rejected (s.className capability) v shown issues.length))
  let type ← semanticTypeOf capability
  let target ← (type.name : SessionM String)
  throw ⟨.refused (.noConversion (s.className value) target) v (some type) (some issues), some value⟩

/-- The literal that a capability makes of a value, or the rejection of the value. -/
def literalOf (capability value : Ref) : SessionM Ref := do
  match ← tested call capability value with
  | .ok plain =>
    let type ← attributeOf capability Attribute.semanticType
    newLiteral type (← request call capability .format [plain])
  | .error issues => reject capability value issues

/-- A value as a capability of a class writes it, whether it was tested or not. A class that leaves
open how its capabilities write gives nothing. -/
def format (owner : StandingClass) (capability value : Ref) : SessionM Ref := do
  match owner.capability? with
  | some (.text _) | some (.shortText _) =>
    request call (← attributeOf capability Attribute.style) .quote [value]
  | some .integer | some .decimal => textObjectOf call value
  | some .boolean => do
    wordObject (← (StandardCapability.boolean.format (.bool (← truthOf value)) : SessionM String))
  | some c => do newText (← (c.format (← settled call value) : SessionM String))
  | none => absent

/-- A value between quotation marks. Where marks are to be doubled, the value is asked to replace
the marks in itself. -/
def quote (style value : Ref) : SessionM Ref := do
  let doubled ← truthOf (← attributeOf style QuoteStyle.doubledOption)
  let inside ← if doubled then
      let mark ← attributeOf style QuoteStyle.markOption
      let shown ← displayOf call mark
      ask call value "replace" [mark, ← newText (shown ++ shown)]
    else pure value
  let mark ← displayOf call (← attributeOf style QuoteStyle.markOption)
  newText (mark ++ (← displayOf call inside) ++ mark)

end Calls

/-- The style for new capabilities: the one given, but the default in the place of anything
that counts as false. -/
def styleFor (given? : Option Ref) : SessionM Ref := do
  match given? with
  | some r => if ← truthOf r then return r else defaultStyle
  | none => defaultStyle

/-- A new capability. Only capabilities for texts keep a style. -/
def newCapability (c : StandardCapability) (style? : Option Ref) : SessionM Ref := do
  let id := (StandingClass.ofCapability c).id
  match c.style? with
  | some _ => newObject (.object id) [(Attribute.style, ← styleFor style?)]
  | none => newObject (.object id) []

/-- The capabilities that are active unless others are given. -/
def newDefaults (style? : Option Ref) : SessionM Ref := do
  newTuple (← (defaultCapabilities {}).mapM (newCapability · style?))

end FilterAlgebra.SessionM
