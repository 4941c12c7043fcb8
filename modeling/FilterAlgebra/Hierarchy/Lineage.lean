/-!
# Orders of lookup

A class with several bases needs one order in which it and all its ancestors are
searched. The order puts every class before its bases and keeps the order in
which each class lists its bases. It is found by merging: again and again the
first head that stands in no tail is taken and removed from all heads. Where no
head is eligible, no such order exists. Nothing is asked of classes but that they can be
told apart.
-/

set_option autoImplicit false

namespace FilterAlgebra.Lineage

variable {α : Type} [DecidableEq α]

/-- The first elements of some orders. -/
def heads {α : Type} (orders : List (List α)) : List α :=
  orders.filterMap List.head?

/-- A class may come next if it stands in no tail. -/
def eligible (orders : List (List α)) (c : α) : Bool :=
  orders.all fun order => !order.tail.contains c

/-- The class that comes next: the first head that may. -/
def choose (orders : List (List α)) : Option α :=
  (heads orders).find? (eligible orders)

/-- What is left of an order once a class has been taken. -/
def advance (c : α) : List α → List α
  | [] => []
  | head :: tail => if head = c then tail else head :: tail

/-- Merges orders in at most the given number of steps. -/
def mergeWithin : Nat → List (List α) → Except (List α) (List α)
  | 0, _ => .ok []
  | steps + 1, orders =>
    if orders.all List.isEmpty then .ok []
    else
      match choose orders with
      | none => .error (heads orders).eraseDups
      | some c => (c :: ·) <$> mergeWithin steps (orders.map (advance c))

/-- Merges orders. Every step takes an element out, so their total length bounds the steps. An
impossible merge gives the heads that block each other. -/
def merge (orders : List (List α)) : Except (List α) (List α) :=
  mergeWithin orders.flatten.length orders

end FilterAlgebra.Lineage
