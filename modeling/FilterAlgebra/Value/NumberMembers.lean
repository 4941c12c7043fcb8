import FilterAlgebra.Value.Operators

/-!
# Members of numbers

Besides operators, numbers have members that tell their parts, bring them to integers,
round them, or write them in other ways. Here is what each of them gives, by its name;
how many operands it takes was looked at before.
-/

set_option autoImplicit false

namespace FilterAlgebra

/-- What a member gives: nothing if it does not know its operand. -/
abbrev Reply := Except Fault (Option Value)

namespace Value

/-- The reply that is a value. -/
def reply (v : Value) : Reply :=
  .ok (some v)

/-- The operand in a place, unless it is left out or absent. -/
def operandAt? (operands : List Value) (i : Nat) : Option Value :=
  (operands[i]?).filter fun v =>
    match v with
    | none => false
    | _ => true

section Integers

/-- The bytes of a natural number, the last one first, as many as there are to be. -/
def lowBytes : Nat → Nat → List UInt8
  | 0, _ => []
  | count + 1, n => UInt8.ofNat (n % 256) :: lowBytes count (n / 256)

/-- Whether the first byte counts most, as a word says. -/
def isBigEndian (role : String) : Option Value → Except Fault Bool
  | Option.none => .ok true
  | some v =>
    match v.text? with
    | some "big" => .ok true
    | some "little" => .ok false
    | some _ => .error (.badArguments .value "byteorder must be either 'little' or 'big'")
    | Option.none =>
      .error (.badArguments .type (role ++ "() argument 'byteorder' must be str, not " ++ v.typeName))

/-- An integer as bytes. -/
def bytesOfInteger (n : Int) (operands : List Value) : Reply := do
  let count ← match operands[0]? with
    | some v => v.asInteger
    | Option.none => pure 1
  let big ← isBigEndian "to_bytes" operands[1]?
  if count < 0 then .error (.badArguments .value "length argument must be non-negative")
  else if n < 0 then .error (.badArguments .overflow "can't convert negative int to unsigned")
  else if count.toNat * 8 < Arithmetic.bitLength n.toNat then
    .error (.badArguments .overflow "int too big to convert")
  else
    let content := lowBytes count.toNat n.toNat
    reply (bytes (if big then content.reverse else content))

/-- An integer rounded to a number of places, of which only those before the point count. -/
def roundInteger (n : Int) (places? : Option Value) : Reply := do
  match places? with
  | Option.none => reply (int n)
  | some v =>
    let places ← v.asInteger
    if 0 ≤ places then reply (int n)
    else if Arithmetic.greatestExponent < places.natAbs then reply (int 0)
    else reply (int (Arithmetic.roundTo n places.natAbs))

/-- What a member of an integer gives. -/
def integerMember? (n : Int) (name : String) (operands : List Value) : Option Reply :=
  match name with
  | "__neg__" => some (reply (int (-n)))
  | "__abs__" => some (reply (int n.natAbs))
  | "__invert__" => some (reply (int (-n - 1)))
  | "__pos__" | "__int__" | "__index__" | "__trunc__" | "__floor__" | "__ceil__" | "conjugate" =>
    some (reply (int n))
  | "__float__" => some (some <$> float <$> floatOfInteger n)
  | "__bool__" => some (reply (bool (n ≠ 0)))
  | "bit_length" => some (reply (int (Arithmetic.bitLength n.natAbs)))
  | "bit_count" => some (reply (int (Arithmetic.ones n.natAbs)))
  | "as_integer_ratio" => some (reply (tuple [int n, int 1]))
  | "__getnewargs__" => some (reply (tuple [int n]))
  | "__round__" => some (roundInteger n operands[0]?)
  | "to_bytes" => some (bytesOfInteger n operands)
  | _ => Option.none

end Integers

section Floats

/-- The fault of what is infinite or no number where neither can stand. -/
def specialFault (x : Binary64) (what : String) : Fault :=
  if x.magnitude = .nan then .badArguments .value ("cannot convert " ++ what ++ "NaN to integer")
  else .badArguments .overflow ("cannot convert " ++ what ++ "infinity to integer")

/-- An integer made of a fraction in some way. -/
def integerBy (x : Binary64) (cut : Int → Nat → Int) : Reply :=
  match x.fraction? with
  | some (top, bottom) => reply (int (cut top bottom))
  | Option.none => .error (specialFault x "float ")

/-- A fraction rounded to an integer, half-way cases to the even one. -/
def roundFraction (top : Int) (bottom : Nat) : Int :=
  let n : Int := Binary64.roundQuotient top.natAbs bottom
  if top < 0 then -n else n

/-- A floating-point number rounded to a number of places after the point. -/
def roundFloat (x : Binary64) (places : Int) : Except Fault Value :=
  match x.fraction? with
  | Option.none => .ok (float x)
  | some (top, bottom) =>
    if 400 < places then .ok (float x)
    else if places < -400 then .ok (float (Binary64.zero x.negative))
    else
      let scaled := Binary64.roundQuotient (top.natAbs * tenTo places.toNat) (bottom * tenTo (-places).toNat)
      let y := Binary64.ofFraction x.negative (scaled * tenTo (-places).toNat) (tenTo places.toNat)
      if y.isFinite then .ok (float y)
      else .error (.badArguments .overflow "rounded value too large to represent")

/-- The hexadecimal digits of a significand behind its point. -/
def hexadecimalPlaces (fraction : Nat) : String :=
  let digits := Nat.toDigits 16 fraction
  String.ofList (List.replicate (13 - digits.length) '0' ++ digits)

/-- A floating-point number in hexadecimal. -/
def hexadecimalText (x : Binary64) : String :=
  let sign := if x.negative && x.magnitude ≠ .nan then "-" else ""
  if !x.isFinite then x.text
  else if x.isZero then sign ++ "0x0.0p+0"
  else
    let isNormal := x.exponentField ≠ 0
    let exponent : Int := if isNormal then x.exponentField - 1023 else -1022
    sign ++ (if isNormal then "0x1." else "0x0.") ++ hexadecimalPlaces x.fractionField ++ "p" ++
      (if exponent < 0 then "-" else "+") ++ toString exponent.natAbs

/-- The fault of what has no ratio. -/
def ratioFault (isNan : Bool) : Fault :=
  if isNan then .badArguments .value "cannot convert NaN to integer ratio"
  else .badArguments .overflow "cannot convert Infinity to integer ratio"

/-- A number as a fraction in lowest terms. -/
def ratioOf (fraction? : Option (Int × Nat)) (isNan : Bool) : Reply :=
  match fraction? with
  | some (top, bottom) =>
    let (top, bottom) := Arithmetic.reduced top bottom
    reply (tuple [int top, int bottom])
  | Option.none => .error (ratioFault isNan)

/-- What a member of a floating-point number gives. -/
def floatMember? (x : Binary64) (name : String) (operands : List Value) : Option Reply :=
  match name with
  | "__neg__" => some (reply (float x.negated))
  | "__abs__" => some (reply (float x.absolute))
  | "__pos__" | "__float__" | "conjugate" => some (reply (float x))
  | "__int__" | "__trunc__" => some (integerBy x truncate)
  | "__floor__" => some (integerBy x fun top bottom => top.fdiv bottom)
  | "__ceil__" => some (integerBy x fun top bottom => -(-top).fdiv bottom)
  | "__bool__" => some (reply (bool !x.isZero))
  | "is_integer" => some (reply (bool x.integer?.isSome))
  | "as_integer_ratio" => some (ratioOf x.fraction? (x.magnitude = .nan))
  | "__getnewargs__" => some (reply (tuple [float x]))
  | "hex" => some (reply (str (hexadecimalText x)))
  | "__round__" =>
    some <|
      match operandAt? operands 0 with
      | Option.none => integerBy x roundFraction
      | some v => do return some (← roundFloat x (← v.asInteger))
  | _ => Option.none

end Floats

section Decimals

/-- A decimal without its sign. -/
def withSign (negative : Bool) : Decimal → Decimal
  | .finite _ c e => .finite negative c e
  | .infinite _ => .infinite negative
  | .nan _ signaling payload => .nan negative signaling payload

/-- Whether a decimal is a zero. -/
def isZeroDecimal : Decimal → Bool
  | .finite _ c _ => c = 0
  | _ => false

/-- An integer made of a decimal in some way. -/
def integerOfDecimalBy (d : Decimal) (cut : Int → Nat → Int) : Reply :=
  match d with
  | .nan .. => .error (.badArguments .value "cannot convert NaN to integer")
  | .infinite _ => .error (.badArguments .overflow "cannot convert Infinity to integer")
  | .finite _ _ e =>
    if (Arithmetic.greatestExponent : Int) < e.natAbs then .error .wrongOperands
    else
      match d.fraction? with
      | some (top, bottom) => reply (int (cut top bottom))
      | Option.none => .error .wrongOperands

/-- A decimal without zeros at the end of its coefficient. -/
def normalized : Decimal → Decimal
  | .finite negative c e =>
    if c = 0 then .finite negative 0 0
    else
      let (rest, zeros) := NumberValue.trimZeros c.log2 c
      .finite negative rest (e + zeros)
  | d => d

/-- The class of a decimal in words. -/
def numberClass : Decimal → String
  | .nan _ signaling _ => if signaling then "sNaN" else "NaN"
  | .infinite negative => sign negative ++ "Infinity"
  | .finite negative c e =>
    if c = 0 then sign negative ++ "Zero"
    else if e + (Nat.toDigits 10 c).length - 1 < -999999 then sign negative ++ "Subnormal"
    else sign negative ++ "Normal"
where
  /-- The sign in front of a word. -/
  sign (negative : Bool) : String :=
    if negative then "-" else "+"

/-- The members of decimals that only take a context. -/
def contextual : List String :=
  ["exp", "ln", "log10", "next_minus", "next_plus", "normalize", "sqrt", "is_normal", "is_subnormal", "logb",
    "logical_invert", "number_class", "to_eng_string"]

/-- What a member of a decimal gives, as far as nothing has to be rounded. -/
def decimalMember? (d : Decimal) (name : String) (operands : List Value) : Option Reply :=
  let isNan := match d with
    | .nan .. => true
    | _ => false
  let isSignal := (decimal d).isSignaling
  match name with
  | "__neg__" | "__pos__" | "__abs__" =>
    some <|
      if isSignal then .error .invalidComparison
      else
        match d with
        | .nan .. => reply (decimal d)
        | _ =>
          let negative := match name with
            | "__neg__" => !d.isNegative
            | "__pos__" => d.isNegative
            | _ => false
          reply (decimal (withSign (negative && !isZeroDecimal d) d))
  | "__int__" | "__trunc__" => some (integerOfDecimalBy d truncate)
  | "__floor__" => some (integerOfDecimalBy d fun top bottom => top.fdiv bottom)
  | "__ceil__" => some (integerOfDecimalBy d fun top bottom => -(-top).fdiv bottom)
  | "__round__" => if operands.isEmpty then some (integerOfDecimalBy d roundFraction) else Option.none
  | "__float__" => some (some <$> float <$> (decimal d).asFloat)
  | "__bool__" => some (reply (bool !isZeroDecimal d))
  | "copy_abs" => some (reply (decimal (withSign false d)))
  | "copy_negate" => some (reply (decimal (withSign (!d.isNegative) d)))
  | "canonical" | "conjugate" | "__copy__" | "__deepcopy__" => some (reply (decimal d))
  | "radix" => some (reply (decimal (.finite false 10 0)))
  | "is_finite" => some (reply (bool d.isFinite))
  | "is_infinite" => some (reply (bool (!d.isFinite && !isNan)))
  | "is_nan" => some (reply (bool isNan))
  | "is_qnan" => some (reply (bool (isNan && !isSignal)))
  | "is_snan" => some (reply (bool isSignal))
  | "is_signed" => some (reply (bool d.isNegative))
  | "is_zero" => some (reply (bool (isZeroDecimal d)))
  | "is_canonical" => some (reply (bool true))
  | "is_normal" => some (reply (bool ((numberClass d).endsWith "Normal")))
  | "is_subnormal" => some (reply (bool ((numberClass d).endsWith "Subnormal")))
  | "number_class" => some (reply (str (numberClass d)))
  | "normalize" => if isNan then Option.none else some (reply (decimal (normalized d)))
  | "adjusted" =>
    some <| reply <|
      match d with
      | .finite _ c e => int (if c = 0 then e else e + (Nat.toDigits 10 c).length - 1)
      | _ => int 0
  | "as_integer_ratio" => some (ratioOf d.fraction? isNan)
  | _ => Option.none

end Decimals

/-- What a member of a number gives. -/
def numberMember? (v : Value) (name : String) (operands : List Value) : Option Reply :=
  match Operator.ofName? name, operands with
  | some (operator, isRight), [w] => some (operate operator isRight v w)
  | some (.pow, isRight), [w, none] => some (operate .pow isRight v w)
  | _, _ =>
    match v.held.index?, v.float?, v.decimal? with
    | some n, _, _ => integerMember? n name operands
    | Option.none, some x, _ => floatMember? x name operands
    | Option.none, Option.none, some d =>
      if contextual.contains name && (operandAt? operands 0).isSome then
        some (.error (.badArguments .type "optional argument must be a context"))
      else decimalMember? d name operands
    | Option.none, Option.none, Option.none => Option.none

end Value

end FilterAlgebra
