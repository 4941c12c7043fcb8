import FilterAlgebra.Session.Capabilities
import FilterAlgebra.Session.Construction
import FilterAlgebra.Session.Prelude
import FilterAlgebra.Value.TextMembers

/-!
# Members of rows and mappings

Lists and tuples give items by their places, are looked through, put together and
compared item by item; mappings give what stands under a key. What can be changed has
members that change it, and then it is changed for all who hold it.
-/

set_option autoImplicit false

namespace FilterAlgebra.SessionM

/-- The fault of a call with the wrong operands. -/
def memberFault (complaint : String) : Fault :=
  .badArguments .type complaint

/-- The answer of an operator that does not know its operand. -/
def noAnswer : SessionM Ref :=
  newToken .noAnswer "NotImplemented"

/-- An object for a truth value. -/
def newTruth (b : Bool) : SessionM Ref :=
  newAtom (.bool b)

/-- The object for what a member of a value replied. -/
def replied (reply : Reply) : SessionM Ref := do
  match ← (reply : SessionM (Option Value)) with
  | some v => newValue v
  | none => noAnswer

section Comparing

/-- The items of a row, and whether it can be changed. -/
def rowOf? (s : Session) (r : Ref) : Option (Bool × List Ref) :=
  match s.content r with
  | .list items => some (true, items)
  | .tuple items => some (false, items)
  | _ => none

/-- The first items in which two rows differ. -/
def differing? (s : Session) : List Ref → List Ref → Except Fault (Option (Ref × Ref))
  | a :: as, b :: bs => do
    if ← Equality.orSame s.equal a b then differing? s as bs else return some (a, b)
  | _, _ => .ok none

/-- Whether two objects are in an order, compared to the given depth: rows are in the order of the
first items in which they differ, or else in that of their lengths. -/
def ordered (s : Session) (c : Comparison) : Nat → Ref → Ref → Except Fault Bool
  | 0, _, _ => .error .wrongOperands
  | depth + 1, a, b => do
    let (v, w) := (s.value a, s.value b)
    match ← v.compareBy c w, ← w.compareBy c.exchanged v, rowOf? s a, rowOf? s b with
    | some answer, _, _, _ | none, some answer, _, _ => return answer
    | none, none, some (isList, xs), some (isOther, ys) =>
      if isList = isOther then
        match ← differing? s xs ys with
        | some (x, y) => ordered s c depth x y
        | none => return c.holds (some (compare xs.length ys.length))
      else .error (incomparable v w)
    | none, none, _, _ => .error (incomparable v w)
where
  /-- The fault that two values are in no order. -/
  incomparable (v w : Value) : Fault :=
    memberFault ("'" ++ c.sign ++ "' not supported between instances of '" ++ v.typeName ++ "' and '" ++
      w.typeName ++ "'")

/-- What a row or a mapping answers that is compared with another object; it only knows those of its
own kind. -/
def compareObjects (c : Comparison) (a b : Ref) : SessionM Ref := do
  let s ← get
  let sameKind := match s.content a, s.content b with
    | .list _, .list _ | .tuple _, .tuple _ => true
    | x, y => x.entries?.isSome && y.entries?.isSome
  if sameKind && c.isOfOrder && (rowOf? s a).isSome then
    newTruth (← (ordered s c s.depth a b : SessionM Bool))
  else if sameKind && !c.isOfOrder then
    let equal ← (Equality.compareContents s s.equal a b : SessionM Bool)
    newTruth (if c = .equal then equal else !equal)
  else noAnswer

end Comparing

section Rows

/-- The number that an object is as a place. -/
def indexOf (r : Ref) (missing : Fault) : SessionM Int := do
  let v ← valueOf r
  let n ← require missing v.held.index?
  if n < -twoTo 63 ∨ twoTo 63 ≤ n then fault (.indexTooLarge v.typeName) else return n

/-- A place that is counted from the end if it is negative, as long as there is something. -/
def placeIn (length : Nat) (i : Int) : Option Nat :=
  let i := if i < 0 then i + length else i
  if 0 ≤ i ∧ i < length then some i.toNat else none

/-- The place in a row that an object stands for. -/
def placeAt (self key : Ref) (length : Nat) (what : String) : SessionM Nat := do
  let s ← get
  let i ← indexOf key (s.indexFault self (s.typeName key))
  require (.indexOutOfRange what) (placeIn length i)

/-- How often the items of a row are to be repeated. -/
def repetitions (length : Nat) (r : Ref) : SessionM Nat := do
  let v ← valueOf r
  let n ← (v.asInteger : SessionM Int)
  if n < -twoTo 63 ∨ twoTo 63 ≤ n then
    fault (.badArguments .overflow ("cannot fit '" ++ v.typeName ++ "' into an index-sized integer"))
  else if Value.greatestLength < n.toNat * length then fault .wrongOperands
  else return if length = 0 then 0 else n.toNat

/-- The place of the first item that is equal to an object. -/
def firstPlace? (s : Session) (item : Ref) : Nat → List Ref → Except Fault (Option Nat)
  | _, [] => .ok none
  | i, x :: rest => do
    if ← Equality.orSame s.equal x item then return some i else firstPlace? s item (i + 1) rest

/-- How many items are equal to an object. -/
def occurrences (s : Session) (item : Ref) (items : List Ref) : Except Fault Nat := do
  let equal ← items.filterM fun x => Equality.orSame s.equal x item
  return equal.length

/-- The part of a row that starts at one place and stops before another. -/
def itemsWithin (items bounds : List Ref) : SessionM (Nat × List Ref) := do
  let values ← bounds.mapM valueOf
  let start ← (bound values 0 0 : SessionM Int)
  let stop ← (bound values 1 items.length : SessionM Int)
  let first := Search.place items.length start
  return (first, (items.take (Search.place items.length stop)).drop first)
where
  /-- One of the bounds. -/
  bound (values : List Value) (i : Nat) (default : Int) : Except Fault Int :=
    match values[i]? with
    | none => .ok default
    | some v =>
      (memberFault "slice indices must be integers or have an __index__ method").ofOption v.held.index?

/-- What a member gives that lists and tuples share. -/
def callOfRow (name : String) (self : Ref) (isList : Bool) (items operands : List Ref) : SessionM Ref := do
  let s ← get
  let word := if isList then "list" else "tuple"
  let newRow := fun (items : List Ref) => if isList then newObject (.list items) [] else newTuple items
  match name, operands with
  | "__len__", [] => newAtom (.int items.length)
  | "__getitem__", [key] =>
    let i ← placeAt self key items.length (word ++ " ")
    require .wrongOperands items[i]?
  | "__contains__", [item] => newTruth (← (s.contains item items : SessionM Bool))
  | "count", [item] => newAtom (.int (← (occurrences s item items : SessionM Nat)))
  | "index", item :: bounds =>
    let (first, inside) ← itemsWithin items bounds
    match ← (firstPlace? s item first inside : SessionM (Option Nat)) with
    | some i => newAtom (.int i)
    | none =>
      if isList then
        let shown ← ((s.value item).inspect : SessionM String)
        fault (.badArguments .value (shown ++ " is not in list"))
      else fault (.badArguments .value "tuple.index(x): x not in tuple")
  | "__add__", [other] =>
    match rowOf? s other with
    | some (isOther, others) => if isList = isOther then newRow (items ++ others) else unlike s word other
    | none => unlike s word other
  | "__mul__", [count] | "__rmul__", [count] =>
    newRow (List.replicate (← repetitions items.length count) items).flatten
  | "__getnewargs__", [] => newTuple [← newTuple items]
  | name, [other] =>
    match Comparison.ofName? name with
    | some c => compareObjects c self other
    | none => fault .wrongOperands
  | _, _ => fault .wrongOperands
where
  /-- Refuses to put two rows together. -/
  unlike (s : Session) (word : String) (other : Ref) : SessionM Ref :=
    let actual := "(not \"" ++ s.typeName other ++ "\")"
    fault (memberFault ("can only concatenate " ++ word ++ " " ++ actual ++ " to " ++ word))

/-- Lets a list have other items. -/
def setItems (self : Ref) (items : List Ref) : SessionM Ref := do
  setContent self (.list items)
  absent

/-- Takes an item out of a list. -/
def popItem (self : Ref) (items : List Ref) (key? : Option Ref) : SessionM Ref := do
  let i ← match key? with
    | none => pure (-1)
    | some key => indexOf key (.notAnInteger ((← get).typeName key))
  if items.isEmpty then fault (.badArguments .index "pop from empty list")
  else
    let place ← require (.badArguments .index "pop index out of range") (placeIn items.length i)
    let _ ← setItems self (items.eraseIdx place)
    require .wrongOperands items[place]?

/-- An item put among others that are in order, behind those that it is not less than. -/
def insertOrdered (s : Session) (item : Ref) : List Ref → Except Fault (List Ref)
  | [] => .ok [item]
  | x :: rest => do
    if ← ordered s .less s.depth item x then return item :: x :: rest
    else return x :: (← insertOrdered s item rest)

/-- What a member gives that only lists have. -/
def callOfList (name : String) (self : Ref) (items operands : List Ref) : SessionM Ref := do
  let s ← get
  match name, operands with
  | "append", [item] => setItems self (items ++ [item])
  | "extend", [more] => do setItems self (items ++ (← itemsOf more))
  | "__iadd__", [more] => do
    let _ ← setItems self (items ++ (← itemsOf more))
    return self
  | "__imul__", [count] =>
    let _ ← setItems self (List.replicate (← repetitions items.length count) items).flatten
    return self
  | "insert", [key, item] =>
    let place := Search.place items.length (← indexOf key (.notAnInteger (s.typeName key)))
    setItems self (items.take place ++ item :: items.drop place)
  | "pop", [] => popItem self items none
  | "pop", [key] => popItem self items (some key)
  | "remove", [item] =>
    match ← (firstPlace? s item 0 items : SessionM (Option Nat)) with
    | some i => setItems self (items.eraseIdx i)
    | none => fault (.badArguments .value "list.remove(x): x not in list")
  | "clear", [] => setItems self []
  | "copy", [] => newObject (.list items) []
  | "reverse", [] => setItems self items.reverse
  | "sort", [] => do
    setItems self (← (items.foldlM (fun sorted item => insertOrdered s item sorted) [] : SessionM (List Ref)))
  | "__setitem__", [key, item] =>
    let i ← placeAt self key items.length "list assignment "
    setItems self (items.set i item)
  | "__delitem__", [key] =>
    let i ← placeAt self key items.length "list assignment "
    setItems self (items.eraseIdx i)
  | "__init__", [] => setItems self []
  | "__init__", [row] => do
    let _ ← setItems self []
    setItems self (← itemsOf row)
  | "__init__", more => fault (Construction.tooMany .list more.length)
  | _, _ => callOfRow name self true items operands

end Rows

section Mappings

variable (call : Caller)

/-- What stands under a key of a mapping, or else what is given in its place. -/
def entryOr (entries : List (Ref × Ref)) (key : Ref) (other? : Option Ref) : SessionM Ref := do
  match ← ((← get).find? key entries : SessionM (Option Ref)), other? with
  | some found, _ => return found
  | none, some other => return other
  | none, none => absent

/-- What stands under a key of a mapping. -/
def entryAt (entries : List (Ref × Ref)) (key : Ref) : SessionM Ref := do
  let s ← get
  match ← (s.find? key entries : SessionM (Option Ref)) with
  | some found => return found
  | none => fault (.missingKey (← ((s.value key).inspect : SessionM String)))

/-- Entries without the one of a key. -/
def entriesWithout (s : Session) (key : Ref) : List (Ref × Ref) → Except Fault (List (Ref × Ref))
  | [] => .ok []
  | (k, r) :: rest => do
    if ← Equality.orSame s.equal k key then return rest else return (k, r) :: (← entriesWithout s key rest)

/-- Entries and more of them. -/
def entriesWith (entries more : List (Ref × Ref)) : SessionM (List (Ref × Ref)) := do
  let s ← get
  (more.foldlM (fun entries (key, r) => s.putHashable key r entries) entries : SessionM _)

/-- Lets a mapping have other entries. -/
def setEntries (self : Ref) (entries : List (Ref × Ref)) : SessionM Ref := do
  setContent self (.dict entries)
  absent

/-- What a member gives that all mappings have. -/
def callOfMapping (name : String) (self : Ref) (entries : List (Ref × Ref)) (operands : List Ref) :
    SessionM Ref := do
  let s ← get
  match name, operands with
  | "__len__", [] => newAtom (.int entries.length)
  | "__getitem__", [key] => entryAt entries key
  | "__contains__", [key] => newTruth (← (s.find? key entries : SessionM (Option Ref))).isSome
  | "get", [key] => entryOr entries key none
  | "get", [key, other] => entryOr entries key (some other)
  | "copy", [] => newObject (.dict entries) []
  | "__or__", [other] | "__ror__", [other] =>
    match (s.content other).entries? with
    | some others =>
      let (first, second) := if name = "__or__" then (entries, others) else (others, entries)
      newObject (.dict (← entriesWith first second)) []
    | none => noAnswer
  | name, [other] =>
    match Comparison.ofName? name with
    | some c => compareObjects c self other
    | none => fault .wrongOperands
  | _, _ => fault .wrongOperands

/-- What a member gives that only mappings have that can be changed. -/
def callOfDict (name : String) (self : Ref) (entries : List (Ref × Ref)) (args : Arguments) :
    SessionM Ref := do
  let s ← get
  match name, args.positional with
  | "setdefault", key :: other =>
    match ← (s.find? key entries : SessionM (Option Ref)) with
    | some found => return found
    | none =>
      let other ← (other.head?.elim absent pure : SessionM Ref)
      let _ ← setEntries self (entries ++ [(key, other)])
      return other
  | "pop", [key] =>
    if entries.isEmpty then fault (.missingKey (← ((s.value key).inspect : SessionM String)))
    else
      match ← (s.find? key entries : SessionM (Option Ref)) with
      | some found =>
        let _ ← setEntries self (← (entriesWithout s key entries : SessionM _))
        return found
      | none => entryAt entries key
  | "pop", [key, other] =>
    if entries.isEmpty then return other
    else
      match ← (s.find? key entries : SessionM (Option Ref)) with
      | some found =>
        let _ ← setEntries self (← (entriesWithout s key entries : SessionM _))
        return found
      | none => return other
  | "popitem", [] =>
    match entries.getLast? with
    | some (key, r) =>
      let _ ← setEntries self entries.dropLast
      newTuple [key, r]
    | none => fault (.missingKey "'popitem(): dictionary is empty'")
  | "update", positional | "__init__", positional =>
    if 1 < positional.length then fault (Construction.tooMany .dict positional.length)
    else
      let more ← positional.head?.elim (pure []) (entriesFor call)
      let named ← args.named.mapM fun (name, r) => do return (← newText name, r)
      setEntries self (← entriesWith entries (more ++ named))
  | "__ior__", [other] =>
    let _ ← setEntries self (← entriesWith entries (← entriesFor call other))
    return self
  | "clear", [] => setEntries self []
  | "__setitem__", [key, r] => do setEntries self (← entriesWith entries [(key, r)])
  | "__delitem__", [key] =>
    let _ ← entryAt entries key
    setEntries self (← (entriesWithout s key entries : SessionM _))
  | name, operands => callOfMapping name self entries operands

end Mappings

end FilterAlgebra.SessionM
