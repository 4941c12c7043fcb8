import FilterAlgebra.Number.Arithmetic
import FilterAlgebra.Number.Bitwise
import FilterAlgebra.Value.Conversion

/-!
# Operators on numbers and texts

Numbers know the operators of arithmetic, and numbers and texts can be compared with
others of their kind. An operator says nothing of an operand that its object does not
know: integers know integers only, floating-point numbers know both, decimals know
integers and decimals, and all numbers where they are compared.
-/

set_option autoImplicit false

namespace FilterAlgebra

/-- The operators that compare. -/
inductive Comparison where
  | less
  | atMost
  | equal
  | unequal
  | greater
  | atLeast
  deriving DecidableEq

namespace Comparison

/-- The operator of a name. -/
def ofName? : String → Option Comparison
  | "__lt__" => some less
  | "__le__" => some atMost
  | "__eq__" => some equal
  | "__ne__" => some unequal
  | "__gt__" => some greater
  | "__ge__" => some atLeast
  | _ => none

/-- The sign of an operator. -/
def sign : Comparison → String
  | less => "<"
  | atMost => "<="
  | equal => "=="
  | unequal => "!="
  | greater => ">"
  | atLeast => ">="

/-- Whether an operator asks for the order of its operands. -/
def isOfOrder (c : Comparison) : Bool :=
  c ≠ equal && c ≠ unequal

/-- The operator with its operands exchanged. -/
def exchanged : Comparison → Comparison
  | less => greater
  | atMost => atLeast
  | greater => less
  | atLeast => atMost
  | c => c

/-- Whether two operands of an order stand to each other as an operator says. What has no order is
only unequal. -/
def holds (c : Comparison) (order? : Option Ordering) : Bool :=
  match c, order? with
  | less, some o => o = .lt
  | atMost, some o => o ≠ .gt
  | equal, some o => o = .eq
  | unequal, some o => o ≠ .eq
  | greater, some o => o = .gt
  | atLeast, some o => o ≠ .lt
  | c, none => c = unequal

end Comparison

/-- The operators of arithmetic. -/
inductive Operator where
  | add
  | sub
  | mul
  | mod
  | divmod
  | pow
  | shiftUp
  | shiftDown
  | bitAnd
  | bitXor
  | bitOr
  | floorDivide
  | divide
  deriving DecidableEq

namespace Operator

/-- The operators with the middles of their names. -/
def named : List (String × Operator) :=
  [("add", add), ("sub", sub), ("mul", mul), ("mod", mod), ("divmod", divmod), ("pow", pow),
   ("lshift", shiftUp), ("rshift", shiftDown), ("and", bitAnd), ("xor", bitXor), ("or", bitOr),
   ("floordiv", floorDivide), ("truediv", divide)]

/-- The operator of a name, and whether its object stands on the right. -/
def ofName? (name : String) : Option (Operator × Bool) :=
  named.findSome? fun (middle, operator) =>
    if name = "__" ++ middle ++ "__" then some (operator, false)
    else if name = "__r" ++ middle ++ "__" then some (operator, true)
    else none

end Operator

namespace Value

/-- Bits that one of two integers has, but not both. -/
def differentBits (a b : Int) : Int :=
  a + b - 2 * commonBits a b

/-- Bits that at least one of two integers has. -/
def joinedBits (a b : Int) : Int :=
  a + b - commonBits a b

/-- A power of two integers. -/
def powerOfIntegers (a n : Int) : Except Fault Value :=
  if 0 ≤ n then
    if Arithmetic.greatestExponent < n.toNat && 1 < a.natAbs then .error .wrongOperands
    else .ok (int (Arithmetic.power a n.toNat n.toNat))
  else if a = 0 then .error (Arithmetic.byZero "0.0 cannot be raised to a negative power")
  else do
    let x ← floatOfInteger a
    float <$> Fault.wrongOperands.ofOption (x.powerOfInteger n)

/-- What an operator gives for two integers. -/
def operateOnIntegers (operator : Operator) (a b : Int) : Except Fault Value :=
  match operator with
  | .add => .ok (int (a + b))
  | .sub => .ok (int (a - b))
  | .mul => .ok (int (a * b))
  | .mod => int <$> Arithmetic.floorRemainder a b
  | .divmod => do
    let q ← Arithmetic.floorQuotient a b
    return tuple [int q, int (a - q * b)]
  | .pow => powerOfIntegers a b
  | .shiftUp => int <$> Arithmetic.shiftUp a b
  | .shiftDown => int <$> Arithmetic.shiftDown a b
  | .bitAnd => .ok (int (commonBits a b))
  | .bitXor => .ok (int (differentBits a b))
  | .bitOr => .ok (int (joinedBits a b))
  | .floorDivide => int <$> Arithmetic.floorQuotient a b
  | .divide => float <$> Arithmetic.quotient a b

/-- A power of two floating-point numbers, if the exponent is an integer. -/
def powerOfFloats (x y : Binary64) : Except Fault Value :=
  match y.integer?, x.fraction? with
  | some 0, _ => .ok (float (Binary64.ofInt 1))
  | some n, some (top, _) =>
    if top = 0 && n < 0 then .error (Arithmetic.byZero "0.0 cannot be raised to a negative power")
    else
      match x.powerOfInteger n with
      | some z =>
        if z.isFinite then .ok (float z)
        else .error (.badArguments .overflow "(34, 'Numerical result out of range')")
      | Option.none => .error .wrongOperands
  | _, _ => .error .wrongOperands

/-- What an operator gives for two floating-point numbers, if it knows them. -/
def operateOnFloats (operator : Operator) (x y : Binary64) : Except Fault (Option Value) :=
  let unlessZero := fun (complaint : String) (result : Value) =>
    if y.isZero then .error (Arithmetic.byZero complaint) else .ok (some result)
  let (below, rest) := x.divideWithRemainder y
  match operator with
  | .add => .ok (some (float (x.add y)))
  | .sub => .ok (some (float (x.sub y)))
  | .mul => .ok (some (float (x.mul y)))
  | .divide => unlessZero "float division by zero" (float (x.quotient y))
  | .floorDivide => unlessZero "float floor division by zero" (float below)
  | .mod => unlessZero "float modulo" (float rest)
  | .divmod => unlessZero "float divmod()" (tuple [float below, float rest])
  | .pow => some <$> powerOfFloats x y
  | _ => .ok none

/-- What an operator gives for two decimals, if it is known. Sums, differences and products are exact as
long as they have no more than a certain number of digits. -/
def operateOnDecimals (operator : Operator) (a b : Decimal) : Except Fault (Option Value) :=
  match operator, a, b with
  | .add, .finite n c e, .finite m d f => exact (sum n c e m d f)
  | .sub, .finite n c e, .finite m d f => exact (sum n c e (!m) d f)
  | .mul, .finite n c e, .finite m d f => exact (.finite (n != m) (c * d) (e + f))
  | _, _, _ => .error .wrongOperands
where
  /-- The sum of two finite decimals. -/
  sum (n : Bool) (c : Nat) (e : Int) (m : Bool) (d : Nat) (f : Int) : Decimal :=
    let low := min e f
    let a : Int := c * tenTo (e - low).toNat
    let b : Int := d * tenTo (f - low).toNat
    let total := (if n then -a else a) + (if m then -b else b)
    .finite (if total = 0 then n && m else total < 0) total.natAbs low
  /-- A decimal that needs no rounding. -/
  exact (d : Decimal) : Except Fault (Option Value) :=
    match d with
    | .finite _ c _ => if c < tenTo 28 then .ok (some (decimal d)) else .error .wrongOperands
    | _ => .ok (some (decimal d))

/-- What an operator of a number gives, if it knows the other operand. Of two truth values the bits are
truth values. -/
def operate (operator : Operator) (isRight : Bool) (v w : Value) : Except Fault (Option Value) :=
  let placed : {α : Type} → α → α → α × α := fun a b => if isRight then (b, a) else (a, b)
  match v.held, w.held with
  | bool a, bool b =>
    if [Operator.bitAnd, .bitXor, .bitOr].contains operator then
      .ok (some (bool (match operator with
        | .bitAnd => a && b
        | .bitXor => a != b
        | _ => a || b)))
    else onIntegers (placed a.toInt b.toInt)
  | a, b =>
    match a.index?, a.float?, a.decimal? with
    | some m, _, _ =>
      match b.index? with
      | some n => onIntegers (placed m n)
      | Option.none => .ok Option.none
    | Option.none, some x, _ =>
      match b.float?, b.index? with
      | some y, _ => onFloats (placed x y)
      | Option.none, some n => do onFloats (placed x (← floatOfInteger n))
      | Option.none, Option.none => .ok Option.none
    | Option.none, Option.none, some d =>
      match b.decimal?, b.index? with
      | some f, _ => onDecimals (placed d f)
      | Option.none, some n => onDecimals (placed d (.finite (n < 0) n.natAbs 0))
      | Option.none, Option.none => .ok Option.none
    | _, _, _ => .ok Option.none
where
  /-- An operator on two integers always knows them. -/
  onIntegers (operands : Int × Int) : Except Fault (Option Value) :=
    some <$> operateOnIntegers operator operands.1 operands.2
  /-- An operator on two floating-point numbers. -/
  onFloats (operands : Binary64 × Binary64) : Except Fault (Option Value) :=
    operateOnFloats operator operands.1 operands.2
  /-- An operator on two decimals. -/
  onDecimals (operands : Decimal × Decimal) : Except Fault (Option Value) :=
    operateOnDecimals operator operands.1 operands.2

/-- The order of two values that know each other, `none` inside where they have no order. -/
def order? (v w : Value) : Option (Option Ordering) :=
  match v.held, w.held with
  | text t, text u => some (some (compare (codes t.content) (codes u.content)))
  | bytes b, bytes c => some (some (compare (b.map UInt8.toNat) (c.map UInt8.toNat)))
  | a, b =>
    match a.number?, b.number? with
    | some m, some n =>
      let known := match a.index?.isSome, a.float?.isSome with
        | true, _ => b.index?.isSome
        | false, true => b.index?.isSome || b.float?.isSome
        | false, false => true
      if known then some (m.compare? n) else Option.none
    | _, _ => Option.none
where
  /-- The numbers of the characters of a text. -/
  codes (s : String) : List Nat :=
    s.toList.map Char.toNat

/-- What a comparison says of two values, if the first one knows the second. Decimals that are no
numbers are in no order, and signals cannot even be told apart. -/
def compareBy (c : Comparison) (v w : Value) : Except Fault (Option Bool) :=
  let isSignal := v.isSignaling || w.isSignaling
  match order? v w with
  | Option.none => .ok Option.none
  | some Option.none =>
    if v.decimal?.isSome && (c.isOfOrder || isSignal) then .error .invalidComparison
    else .ok (some (c.holds Option.none))
  | some order => .ok (some (c.holds order))

end Value

end FilterAlgebra
