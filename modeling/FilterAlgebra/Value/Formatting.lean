import FilterAlgebra.Number.Binary64Format
import FilterAlgebra.Number.DecimalFormat
import FilterAlgebra.Number.IntegerFormat
import FilterAlgebra.Value.Conversion

/-!
# Values in formats

Texts and numbers can be shown in formats; each kind has its own. An integer takes the
formats of floating-point numbers too, and is then shown as one. The empty format is not
dealt with here: in it everything is shown as it always is.
-/

set_option autoImplicit false

namespace FilterAlgebra.Value

/-- An integer shown in a format, in its own presentation or in that of a floating-point number. -/
def integerInFormat (typeName : String) (n : Int) (chars : List Char) : Except Fault String := do
  let f ← Numeral.standardFormat.read typeName chars
  match f.presentation with
  | Option.none => Numeral.showIn f n
  | some c =>
    if Numeral.presentations.contains c then Numeral.showIn f n
    else if (Binary64.presentations.drop 1).contains c then (← floatOfInteger n).showIn f
    else .error (FieldFormat.unknownPresentation c typeName)

/-- A value shown in a format that is not empty. -/
def inFormat (typeName : String) (v : Value) (chars : List Char) : Except Fault String :=
  match v.held with
  | text t => FieldFormat.showText typeName t.content chars
  | float x | customFloat x => x.showInFormat typeName chars
  | decimal d => d.showInFormat chars
  | held =>
    match held.index? with
    | some n => integerInFormat typeName n chars
    | Option.none =>
      .error (.badArguments .type ("unsupported format string passed to " ++
        clip Fault.longNameLimit typeName ++ ".__format__"))

end FilterAlgebra.Value
