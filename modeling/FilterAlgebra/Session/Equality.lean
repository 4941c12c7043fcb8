import FilterAlgebra.Number.Comparison
import FilterAlgebra.Session.Snapshot
import FilterAlgebra.Value.Conversion

/-!
# Equality of objects

Two objects are equal if they are equal in value: numbers whatever their form, texts
by their content, lists and tuples item by item, mappings whatever their order, nodes
of one class field by field. Objects of all other kinds are equal only to
themselves. What is no number is not even equal to itself; but within containers an
object always counts as equal to itself. Keys of mappings must be hashable, which
what can be changed is not.
-/

set_option autoImplicit false

namespace FilterAlgebra

namespace Equality

/-- How two parts of objects are compared. -/
abbrev Comparer := Ref → Ref → Except Fault Bool

/-- Whether two objects are one or equal. -/
def orSame (equal : Comparer) (a b : Ref) : Except Fault Bool :=
  if a = b then .ok true else equal a b

/-- Whether all pairs are of one object or of equal ones, as far as both lists go. -/
def pairwise (equal : Comparer) : List Ref → List Ref → Except Fault Bool
  | a :: as, b :: bs => do
    if ← orSame equal a b then pairwise equal as bs else return false
  | _, _ => .ok true

/-- The value of a key among some entries. -/
def find? (equal : Comparer) (key : Ref) : List (Ref × Ref) → Except Fault (Option Ref)
  | [] => .ok none
  | (k, v) :: rest => do
    if ← orSame equal k key then return some v else find? equal key rest

/-- Whether each of some entries is among others. -/
def covered (equal : Comparer) (others : List (Ref × Ref)) : List (Ref × Ref) → Except Fault Bool
  | [] => .ok true
  | (k, v) :: rest => do
    match ← find? equal k others with
    | none => return false
    | some w => if ← orSame equal v w then covered equal others rest else return false

/-- Whether what stands under each of some names also stands under it in another table. -/
def coveredByName (equal : Comparer) (others : Table Ref) : Table Ref → Except Fault Bool
  | [] => .ok true
  | (name, v) :: rest => do
    match others.get? name with
    | none => return false
    | some w => if ← orSame equal v w then coveredByName equal others rest else return false

/-- Whether two tables have the same names and equal objects under them. -/
def sameTables (equal : Comparer) (a b : Table Ref) : Except Fault Bool :=
  if a.length = b.length then coveredByName equal b a else .ok false

/-- Whether every one of some objects is among others. -/
def included (equal : Comparer) (others : List Ref) : List Ref → Except Fault Bool
  | [] => .ok true
  | r :: rest => do
    match ← find? equal r (others.map fun other => (other, other)) with
    | none => return false
    | some _ => included equal others rest

/-- The names of an object that shows a class, or a mapping of names, and what stands under them. -/
def table? (s : Session) (r : Ref) : Option (Table Ref) :=
  match s.content r with
  | .classListing id => some (s.listed id)
  | content => content.entries?.map s.namedEntries

/-- What an object has under some names, in their order. -/
def parts (s : Session) (r : Ref) (names : List String) : Except Fault (List Ref) :=
  names.mapM fun name => (Fault.missingAttribute (s.holder r) name).ofOption (s.part? r name)

/-- Whether two objects of one class are equal as another class compares its objects: nodes by
their fields, models by their options. -/
def sameObjects (s : Session) (equal : Comparer) (owner : StandingClass) (a b : Ref) : Except Fault Bool := do
  match owner.fields? with
  | some fields => do
    let left ← parts s a fields
    let right ← parts s b fields
    pairwise equal left right
  | none => sameTables equal (Snapshot.options s a) (Snapshot.options s b)

/-- Whether two objects are equal by what they consist of. -/
def compareContents (s : Session) (equal : Comparer) (a b : Ref) : Except Fault Bool :=
  match s.content a, s.content b with
  | .atom v, .atom w => v.atomsEqual w
  | .list xs, .list ys => if xs.length = ys.length then pairwise equal xs ys else .ok false
  | .tuple xs, .tuple ys => do
    let agreeing ← pairwise equal xs ys
    return agreeing && xs.length == ys.length
  | .collection _ xs, .collection _ ys => if xs.length = ys.length then included equal ys xs else .ok false
  | .method f self, .method g other => .ok (f == g && self == other)
  | .boundMember m self, .boundMember n other => .ok (m == n && self == other)
  | .containerOf c shown, .containerOf d other => .ok (c == d && shown == other)
  | .classListing _, _ | _, .classListing _ =>
    match table? s a, table? s b with
    | some xs, some ys => sameTables equal xs ys
    | _, _ => .ok false
  | x, y =>
    match x.entries?, y.entries? with
    | some xs, some ys => if xs.length = ys.length then covered equal ys xs else .ok false
    | _, _ => .ok (a == b)

/-- Whether two objects are equal, given how their parts are compared. A class may have a function
of the library to compare its objects. -/
def compare (s : Session) (equal : Comparer) (a b : Ref) : Except Fault Bool :=
  match s.madeOf? a, s.madeOf? b with
  | some c, some d =>
    match s.function? c .sameAs with
    | some f => if c = d then sameObjects s equal f.owner a b else .ok (a == b)
    | none => compareContents s equal a b
  | _, _ => compareContents s equal a b

/-- Whether two objects are equal, compared to the given depth. -/
def equalWithin (s : Session) : Nat → Comparer
  | 0, a, b => .ok (a == b)
  | depth + 1, a, b => compare s (equalWithin s depth) a b

/-- What an object refers to that must be hashable if the object is, as a class says. -/
def hashedParts (s : Session) (f : Function) (r : Ref) : List Ref :=
  match f.owner.fields? with
  | some fields => fields.filterMap (s.part? r)
  | none => if f.owner = .style then (Snapshot.options s r).map (·.2) else []

/-- Why an object cannot be a key, looked for to the given depth. The class of what is never a key
keeps nothing where others keep how they are hashed. -/
def unhashable? (s : Session) : Nat → Ref → Option Fault
  | 0, _ => none
  | depth + 1, r =>
    match (s.kept? (s.classOf r) (Action.name .hash)).map s.content, s.content r with
    | some (.atom .none), _ => some (.unhashable (s.typeName r))
    | some (.function f), _ => (hashedParts s f r).findSome? (unhashable? s depth)
    | _, .tuple items => items.findSome? (unhashable? s depth)
    | _, .atom v => if v.isSignaling then some .unhashableSignal else none
    | _, _ => none

end Equality

namespace Session

/-- Whether two objects are equal. -/
def equal (s : Session) (a b : Ref) : Except Fault Bool :=
  Equality.equalWithin s s.depth a b

/-- Makes sure that an object can be a key. -/
def checkHashable (s : Session) (r : Ref) : Except Fault Unit :=
  match Equality.unhashable? s s.depth r with
  | some f => .error f
  | none => .ok ()

/-- Whether an object is among some objects. -/
def contains (s : Session) (r : Ref) : List Ref → Except Fault Bool
  | [] => .ok false
  | x :: rest => do
    if ← Equality.orSame s.equal x r then return true else s.contains r rest

/-- The objects of a list without those equal to an earlier one. -/
def distinct (s : Session) (items : List Ref) : Except Fault (List Ref) :=
  items.foldlM (fun seen r => do
    s.checkHashable r
    return if ← s.contains r seen then seen else seen ++ [r]) []

/-- The value of a key among some entries. -/
def find? (s : Session) (key : Ref) (entries : List (Ref × Ref)) : Except Fault (Option Ref) := do
  s.checkHashable key
  Equality.find? s.equal key entries

/-- Puts a value under a key: in the place of an equal key if there is one, and
at the end otherwise. -/
def putEntry (s : Session) (key value : Ref) : List (Ref × Ref) → Except Fault (List (Ref × Ref))
  | [] => .ok [(key, value)]
  | (k, v) :: rest => do
    if ← Equality.orSame s.equal k key then return (k, value) :: rest
    else return (k, v) :: (← s.putEntry key value rest)

/-- Entries with one more, whose key must be hashable. -/
def putHashable (s : Session) (key value : Ref) (entries : List (Ref × Ref)) :
    Except Fault (List (Ref × Ref)) := do
  s.checkHashable key
  s.putEntry key value entries

end Session

end FilterAlgebra
