import FilterAlgebra.Node.Rendering
import FilterAlgebra.Number.Comparison
import FilterAlgebra.Number.Rounding

/-!
# Conversions of values

A value can be read as a truth value, some values can be read as integers or as
floating-point numbers, and some have items. These readings are wider than what
capabilities accept: they are what a capability's way of writing does with a value
that was not checked before.
-/

set_option autoImplicit false

namespace FilterAlgebra.Value

/-- The truth of a value: zeros, empty texts and containers, and the absent value are false. -/
def truth (v : Value) : Bool :=
  match v.held with
  | none => false
  | bool b => b
  | int n | customInt n => n ≠ 0
  | color c => c.number ≠ 0
  | float x | customFloat x => x.bits.toNat % twoTo 63 ≠ 0
  | text t => t.content ≠ ""
  | bytes content => !content.isEmpty
  | decimal (.finite _ c _) => c ≠ 0
  | list items | tuple items => !items.isEmpty
  | dict keys _ => !keys.isEmpty
  | listing names _ => !names.isEmpty
  | _ => true

/-- The integer a value counts as; truth values count as one and zero. -/
def index? : Value → Option Int
  | bool b => some (if b then 1 else 0)
  | v => v.integer?

/-- A value read as an integer. -/
def asInteger (v : Value) : Except Fault Int :=
  (Fault.notAnInteger v.typeName).ofOption v.index?

/-- An integer as a floating-point number, unless it is too large for one. -/
def floatOfInteger (n : Int) : Except Fault Binary64 :=
  let x := Binary64.ofInt n
  if x.isFinite then .ok x else .error .numberTooLarge

/-- Bytes as characters, one a byte. -/
def charsOfBytes (content : List UInt8) : List Char :=
  content.map fun b => Char.ofNat b.toNat

/-- A value read as a floating-point number. -/
def asFloat (v : Value) : Except Fault Binary64 :=
  match v.held with
  | float x | customFloat x => .ok x
  | decimal d => Fault.signalingNumber.ofOption (Binary64.ofDecimal? d)
  | text t => (Fault.unreadableNumber t.inspect).ofOption (Binary64.ofString? t.content)
  | bytes content =>
    (Fault.unreadableNumber (Inspection.ofBytes content)).ofOption
      (Binary64.readChars? (charsOfBytes content))
  | held =>
    match held.index? with
    | some n => floatOfInteger n
    | Option.none => .error (.notANumber v.typeName)

/-- The value of a number. -/
def number? (v : Value) : Option NumberValue :=
  match v.held with
  | float x | customFloat x => some (.ofBinary64 x)
  | decimal d => some (.ofDecimal d)
  | held => held.index?.map .ofInt

/-- Whether a value is a decimal that only signals. -/
def isSignaling (v : Value) : Bool :=
  match v.held with
  | decimal (.nan _ signaling _) => signaling
  | _ => false

/-- Whether two values that refer to no others are equal. Numbers cannot be
compared with a signal. -/
def atomsEqual (v w : Value) : Except Fault Bool :=
  match v.held, w.held with
  | text t, text u => .ok (t.content == u.content)
  | bytes b, bytes c => .ok (b == c)
  | none, none => .ok true
  | v, w =>
    match v.number?, w.number? with
    | some m, some n => if v.isSignaling || w.isSignaling then .error .invalidComparison else .ok (m.same n)
    | _, _ => .ok false

/-- The item in a place of a list of items. -/
def itemAt (what : String) (items : List Value) (i : Nat) : Except Fault Value :=
  (Fault.indexOutOfRange what).ofOption items[i]?

/-- The value under a number in a mapping. Keys of other forms stand for it if
they are equal to it. -/
def valueUnder (keys values : List Value) (i : Nat) : Except Fault Value :=
  let wanted := NumberValue.ofInt i
  (Fault.missingKey (toString i)).ofOption
    (((keys.zip values).find? fun (key, _) => key.number?.any (·.same wanted)).map (·.2))

/-- The item of a value under a number. Some classes have items too, which are
only good for showing. -/
def item (v : Value) (i : Nat) : Except Fault Value :=
  match v.held with
  | list items => itemAt "list " items i
  | tuple items => itemAt "tuple " items i
  | text t => itemAt "string " (t.content.toList.map fun c => .str c.toString) i
  | bytes content => itemAt "" (content.map fun b => .int b.toNat) i
  | dict keys values => valueUnder keys values i
  | listing .. => .error (.missingKey (toString i))
  | type .list | type .tuple | type .dict => .ok (.str (holderName v ++ "[" ++ toString i ++ "]"))
  | _ => .error (.notSubscriptable v.holder)
where
  /-- The name that a holder is known by. -/
  holderName (v : Value) : String :=
    match v.holder with
    | .object name | .type name => name

/-- The items that a value gives when it is gone through. -/
def items (v : Value) : Except Fault (List Value) :=
  match v.held with
  | list items | tuple items => .ok items
  | dict keys _ => .ok keys
  | listing names _ => .ok (names.map .str)
  | text t => .ok (t.content.toList.map fun c => .str c.toString)
  | bytes content => .ok (content.map fun b => .int b.toNat)
  | style s => .ok
    [.tuple [.str QuoteStyle.markOption, .str s.mark.char.toString],
     .tuple [.str QuoteStyle.doubledOption, .bool s.doubled]]
  | _ => .error (.notIterable v.typeName)

/-- The name of a named value and what it stands for. -/
def naming : Value → Option (String × Value)
  | color c => some (c.name, int c.number)
  | text (.tag t) => some (t.name, str t.content)
  | _ => Option.none

end FilterAlgebra.Value
