import FilterAlgebra.Number.Exact
import FilterAlgebra.Number.Radix
import FilterAlgebra.Session.Calling
import FilterAlgebra.Session.Equality
import FilterAlgebra.Text.Encoding

/-!
# Built-in classes as functions

A class can be called. The built-in classes then convert what they are given, each in
its own way; without an operand they give their empty value.
-/

set_option autoImplicit false

namespace FilterAlgebra

namespace Value

/-- The greatest power of ten that is written out. -/
def greatestScale : Int := 1000000

/-- A floating-point number cut off after the point. -/
def integerOfFloat (x : Binary64) : Except Fault Int :=
  match x.magnitude, x.fraction? with
  | .nan, _ => .error (.badArguments .value "cannot convert float NaN to integer")
  | _, some (top, bottom) => .ok (truncate top bottom)
  | _, Option.none => .error (.badArguments .overflow "cannot convert float infinity to integer")

/-- A decimal cut off after the point. -/
def integerOfDecimal (d : Decimal) : Except Fault Int :=
  match d with
  | .nan .. => .error (.badArguments .value "cannot convert NaN to integer")
  | .infinite _ => .error (.badArguments .overflow "cannot convert Infinity to integer")
  | .finite _ c e =>
    if e + (Nat.toDigits 10 c).length ≤ 0 then .ok 0
    else if greatestScale < e then .error .wrongOperands
    else
      match d.fraction? with
      | some (top, bottom) => .ok (truncate top bottom)
      | Option.none => .error .wrongOperands

/-- What was read as an integer, or why it is none. -/
def integerRead (base : Nat) (shown : String) : Except Numeral.Unreadable Int → Except Fault Int
  | .ok n => .ok n
  | .error .malformed => .error (.unreadableInteger base shown)
  | .error (.tooManyDigits count) => .error (.tooManyDigitsRead count)

/-- A value made an integer. -/
def toInteger (v : Value) : Except Fault Int :=
  match v.held with
  | text t => integerRead 10 t.inspect (Numeral.read t.content)
  | bytes content => integerRead 10 (Inspection.ofBytes content) (Numeral.readChars (charsOfBytes content))
  | float x | customFloat x => integerOfFloat x
  | decimal d => integerOfDecimal d
  | held =>
    (Fault.badArguments .type
      ("int() argument must be a string, a bytes-like object or a real number, not '" ++ v.typeName ++ "'"
        )).ofOption held.index?

/-- A decimal read from text. -/
def decimalRead (s : String) : Except Fault Decimal := do
  let d ← Fault.notDecimal.ofOption (Decimal.ofString? s)
  if d.inRange then return d else .error .decimalOutOfRange

/-- The fault of a sequence that is to be a decimal. -/
def sequenceFault (complaint : String) : Fault :=
  .badArguments .value complaint

/-- An integer of at most 64 bits; `what` says what it is to become. -/
def wordOf (what : String) (n : Int) : Except Fault Int :=
  if n < -twoTo 63 ∨ twoTo 63 ≤ n then
    .error (.badArguments .overflow ("Python int too large to convert to C " ++ what))
  else .ok n

/-- The sign that the first item of a sequence stands for, as a numeral starts with it. -/
def signOfItem (v : Value) : Except Fault String := do
  let complaint := sequenceFault "sign must be an integer with the value 0 or 1"
  let n ← (complaint.ofOption v.index?) >>= wordOf "long"
  if n = 0 then return "+" else if n = 1 then return "-" else .error complaint

/-- The digit that an item stands for. -/
def digitOfItem (v : Value) : Except Fault Char := do
  let complaint := sequenceFault "coefficient must be a tuple of digits"
  let n ← (complaint.ofOption v.index?) >>= wordOf "long"
  if 0 ≤ n ∧ n ≤ 9 then return Nat.digitChar n.toNat else .error complaint

/-- The digits that the second item of a sequence stands for. -/
def digitsOfItem (v : Value) : Except Fault String := do
  match v.held with
  | list items | tuple items => String.ofList <$> items.mapM digitOfItem
  | _ => .error (sequenceFault "coefficient must be a tuple of digits")

/-- A decimal given by its sign, its digits, and either its exponent or a
letter for what is no number. -/
def decimalOfParts (sign digits exponent : Value) : Except Fault Decimal := do
  let sign ← signOfItem sign
  match exponent.held with
  | text t =>
    let special ← match t.content with
      | "F" => pure "Inf"
      | "n" => pure "NaN"
      | "N" => pure "sNaN"
      | _ => .error (sequenceFault "string argument in the third position must be 'F', 'n' or 'N'")
    let digits ← digitsOfItem digits
    decimalRead (sign ++ special ++ if t.content = "F" then "" else digits)
  | _ =>
    let missing := sequenceFault "exponent must be an integer"
    let exponent ← (missing.ofOption exponent.index?) >>= wordOf "ssize_t"
    let digits ← digitsOfItem digits
    decimalRead (sign ++ (if digits = "" then "0" else digits) ++ "E" ++ toString exponent)

/-- A value made a decimal. -/
def toDecimal (v : Value) : Except Fault Decimal :=
  match v.held with
  | decimal d => .ok d
  | text t => decimalRead t.content
  | float x | customFloat x => .ok x.toDecimal
  | list [sign, digits, exponent] | tuple [sign, digits, exponent] => decimalOfParts sign digits exponent
  | list _ | tuple _ => .error (sequenceFault "argument must be a sequence of length 3")
  | held =>
    match held.index? with
    | some n => .ok (.finite (n < 0) n.natAbs 0)
    | Option.none =>
      .error (.badArguments .type ("conversion from " ++ v.typeName ++ " to Decimal is not supported"))

/-- A value as one byte. -/
def toByte (v : Value) : Except Fault UInt8 := do
  let n ← v.asInteger
  if 0 ≤ n ∧ n < 256 then return UInt8.ofNat n.toNat
  else .error (.badArguments .value "bytes must be in range(0, 256)")

/-- A value made bytes: so many zeros for a number, and otherwise one byte for each item. -/
def toBytes (v : Value) : Except Fault (List UInt8) :=
  match v.held with
  | bytes content => .ok content
  | text _ => .error (.badArguments .type "string argument without an encoding")
  | _ =>
    match v.index?, v.items with
    | some n, _ =>
      if n < -twoTo 63 ∨ twoTo 63 ≤ n then
        .error (.badArguments .overflow ("cannot fit '" ++ v.typeName ++ "' into an index-sized integer"))
      else if n < 0 then .error (.badArguments .value "negative count")
      else if greatestScale < n then .error .wrongOperands
      else .ok (List.replicate n.toNat 0)
    | Option.none, .ok items => items.mapM toByte
    | Option.none, .error _ =>
      .error (.badArguments .type ("cannot convert '" ++ v.typeName ++ "' object to bytes"))

end Value

namespace Construction

/-- The fault of a call with the wrong operands. -/
def complaint (text : String) : Fault :=
  .badArguments .type text

/-- Why a class does not take named operands. -/
def unnamed (t : SemanticType) (name : String) : Fault :=
  match t with
  | .int | .str | .bytes =>
    complaint ("'" ++ name ++ "' is an invalid keyword argument for " ++ t.fixedName ++ "()")
  | .decimal => complaint ("'" ++ name ++ "' is an invalid keyword argument for this function")
  | .object => complaint "object() takes no arguments"
  | .none => complaint "NoneType takes no arguments"
  | t => complaint (t.fixedName ++ "() takes no keyword arguments")

/-- Why a class does not take so many operands. -/
def tooMany (t : SemanticType) (given : Nat) : Fault :=
  match t with
  | .int => complaint ("int() takes at most 2 arguments (" ++ toString given ++ " given)")
  | .decimal => complaint ("function takes at most 2 arguments (" ++ toString given ++ " given)")
  | t => complaint (t.fixedName ++ " expected at most 1 argument, got " ++ toString given)

/-- The word for what stands where the name of an encoding should. -/
def encodingWord (v : Value) : String :=
  match v with
  | .none => "None"
  | v => v.typeName

/-- Why an operand is no name of an encoding, if it is none. -/
def checkEncoding (t : SemanticType) (encoding : Value) : Except Fault String :=
  (complaint (t.fixedName ++ "() argument 'encoding' must be str, not " ++ encodingWord encoding)).ofOption
    encoding.text?

/-- A text made of bytes in an encoding. No encoding is needed for no bytes. -/
def decode (v encoding : Value) : Except Fault Value := do
  let name ← checkEncoding .str encoding
  match v.held with
  | .text _ => .error (complaint "decoding str is not supported")
  | .bytes content =>
    if content.isEmpty then return .str ""
    else
      let encoding ← Encoding.ofName name
      return .str (← encoding.decode content)
  | _ => .error (complaint ("decoding to str: need a bytes-like object, " ++ v.typeName ++ " found"))

/-- Bytes made of a text in an encoding. -/
def encode (v encoding : Value) : Except Fault Value := do
  let name ← checkEncoding .bytes encoding
  match v.held with
  | .text t =>
    let encoding ← Encoding.ofName name
    return .bytes (← encoding.encode t.content)
  | _ => .error (complaint "encoding without a string argument")

/-- An integer read in a base. -/
def readInBase (v base : Value) : Except Fault Value := do
  let n ← base.asInteger
  if n ≠ 0 ∧ (n < 2 ∨ 36 < n) then
    .error (.badArguments .value "int() base must be >= 2 and <= 36, or 0")
  else
    match v.held with
    | .text t => Value.int <$> Value.integerRead n.toNat t.inspect (Radix.read n.toNat t.content)
    | .bytes content =>
      let chars := Value.charsOfBytes content
      Value.int <$> Value.integerRead n.toNat (Inspection.ofBytes content) (Radix.readChars n.toNat chars)
    | _ => .error (complaint "int() can't convert non-string with explicit base")

/-- The value of a class called with two operands. -/
def ofTwo (t : SemanticType) (v w : Value) : Except Fault Value :=
  match t, w with
  | .int, base => readInBase v base
  | .str, encoding => decode v encoding
  | .bytes, encoding => encode v encoding
  | .decimal, .none => Value.decimal <$> v.toDecimal
  | .decimal, _ => .error (complaint "optional argument must be a context")
  | t, _ => .error (tooMany t 2)

/-- The value of a class called with one operand, if what counts is only the
value of the operand. -/
def ofOne? (t : SemanticType) (v : Value) : Option (Except Fault Value) :=
  match t with
  | .int => some (Value.int <$> v.toInteger)
  | .float => some (Value.float <$> v.asFloat)
  | .bool => some (.ok (.bool v.truth))
  | .bytes => some (Value.bytes <$> v.toBytes)
  | .decimal => some (Value.decimal <$> v.toDecimal)
  | _ => none

/-- The empty value of a class whose values refer to no others. -/
def emptyValue (t : SemanticType) : Except Fault Value :=
  match t with
  | .int => .ok (.int 0)
  | .str => .ok (.str "")
  | .float => .ok (.float ⟨0⟩)
  | .bool => .ok (.bool false)
  | .bytes => .ok (.bytes [])
  | .decimal => .ok (.decimal (.finite false 0 0))
  | .none => .ok .none
  | _ => .error .wrongOperands

end Construction

namespace SessionM

/-- The fault that an item is no pair of a key and what it is mapped to. -/
def pairFault (i length : Nat) : Fault :=
  .badArguments .value ("dictionary update sequence element #" ++ toString i ++ " has length " ++
    toString length ++ "; 2 is required")

/-- The fault that an item cannot be gone through. -/
def pairlessFault (i : Nat) : Fault :=
  .badArguments .type
    ("cannot convert dictionary update sequence element #" ++ toString i ++ " to a sequence")

/-- The entries that pairs stand for; `i` is the number of the first one. -/
def entriesOfPairs (entries : List (Ref × Ref)) : Nat → List Ref → SessionM (List (Ref × Ref))
  | _, [] => return entries
  | i, item :: rest => do
    let parts ← tryCatch (itemsOf item) fun _ => fault (pairlessFault i)
    match parts with
    | [key, value] => do
      let entries ← (← get).putHashable key value entries
      entriesOfPairs entries (i + 1) rest
    | parts => fault (pairFault i parts.length)

/-- What an object shows as its keys, if it shows anything. -/
def keysShown? (r : Ref) : SessionM (Option Ref) :=
  tryCatch (some <$> attributeOf r "keys") fun _ => return none

/-- The entries that an object stands for: its own if it has some, and
otherwise those of the pairs in
it. What shows keys without being a mapping has no items under them. -/
def entriesFor (call : Caller) (r : Ref) : SessionM (List (Ref × Ref)) := do
  match ← entriesOf? r with
  | some entries => return entries
  | none =>
    match ← keysShown? r with
    | none => do entriesOfPairs [] 0 (← itemsOf r)
    | some keys => do
      let keys ← itemsOf (← call keys { positional := [] })
      if keys.isEmpty then return [] else fault (.notSubscriptable ((← get).holder r))

/-- A mapping of what an object stands for, and of some names. -/
def constructDict (call : Caller) (positional : List Ref) (named : Table Ref) : SessionM Ref := do
  let entries ← match positional with
    | [] => pure []
    | [r] => entriesFor call r
    | more => fault (Construction.tooMany .dict more.length)
  let entries ← named.foldlM (fun entries (name, r) => do
    let key ← newText name
    (← get).putHashable key r entries) entries
  newObject (.dict entries) []

/-- What a class gives when it is called with one operand: the operand itself, if it is of the very
class and never changes. -/
def constructFrom (call : Caller) (t : SemanticType) (r : Ref) : SessionM Ref := do
  let s ← get
  let isOne := [SemanticType.int, .float, .bytes, .tuple, .decimal].contains t &&
    Hierarchy.classId? t = some (s.classOf r)
  if isOne then return r
  else
    match t with
    | .str => textObjectOf call r
    | .list => do newObject (.list (← itemsOf r)) []
    | .tuple => do newTuple (← itemsOf r)
    | .object => fault (Construction.complaint "object() takes no arguments")
    | .none => fault (Construction.complaint "NoneType takes no arguments")
    | t =>
      match Construction.ofOne? t (← valueOf r) with
      | some outcome => do newAtom (← outcome)
      | none => fault .wrongOperands

/-- What a class gives when it is called without operands. -/
def constructEmpty (t : SemanticType) : SessionM Ref :=
  match t with
  | .list => newObject (.list []) []
  | .tuple => newTuple []
  | .dict => newObject (.dict []) []
  | .object => newObject (.object Hierarchy.objectId) []
  | t => do newAtom (← (Construction.emptyValue t : SessionM Value))

/-- What a built-in class gives when it is called. -/
def constructBuiltIn (call : Caller) (t : SemanticType) (args : Arguments) : SessionM Ref := do
  let given := args.positional.length + args.named.length
  match t, args.named, args.positional with
  | .dict, named, positional => constructDict call positional named
  | .object, _ :: _, _ | .none, _ :: _, _ | .object, _, _ :: _ :: _ | .none, _, _ :: _ :: _ =>
    fault (Construction.unnamed t "")
  | t, (name, _) :: _, _ =>
    if (t = .int || t = .decimal) && 2 < given then fault (Construction.tooMany t given)
    else fault (Construction.unnamed t name)
  | t, [], [] => constructEmpty t
  | t, [], [r] => constructFrom call t r
  | t, [], [r, other] => do
    newAtom (← (Construction.ofTwo t (← valueOf r) (← valueOf other) : SessionM Value))
  | t, [], more => fault (Construction.tooMany t more.length)

end SessionM

end FilterAlgebra
