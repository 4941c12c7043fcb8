import FilterAlgebra.Hierarchy

/-!
# Other bases for a class

A class may be given other bases later. Its order of lookup is then worked out again,
and so are those of all classes below it. If one of them comes to no order, the class
keeps its bases.
-/

set_option autoImplicit false

namespace FilterAlgebra.Hierarchy

variable {α : Type}

/-- A record with the order of lookup that its bases give it, as far as they give one, and with what
they say of the contents of instances. -/
def relined (h : Hierarchy α) (record : ClassRecord α) : ClassRecord α :=
  match h.ancestry record.bases with
  | .ok above => { record with lineage := record.id :: above, holds := record.bases.findSome? h.holds }
  | .error _ => record

/-- The order of lookup of every class at or below a class, worked out once more. -/
def relineBelow (h : Hierarchy α) (id : ClassId) : Hierarchy α :=
  ⟨h.classes.map fun record => if record.lineage.contains id then h.relined record else record⟩

/-- The orders of lookup worked out so many times. An order that changes may change those below it,
so as many times as there are classes are enough. -/
def relineWithin (id : ClassId) : Nat → Hierarchy α → Hierarchy α
  | 0, h => h
  | n + 1, h => relineWithin id n (h.relineBelow id)

/-- Whether the bases of every class at or below a class give it an order of lookup. -/
def checkBelow (h : Hierarchy α) (id : ClassId) : Except Fault Unit :=
  (h.classes.filter (·.lineage.contains id)).forM fun record => do
    let _ ← h.ancestry record.bases
    return ()

/-- A hierarchy in which a class has other bases. -/
def rebase (h : Hierarchy α) (id : ClassId) (bases : List ClassId) : Except Fault (Hierarchy α) := do
  let _ ← h.ancestry bases
  let h := relineWithin id h.classes.length (h.modify id fun record => { record with bases })
  h.checkBelow id
  return h

end FilterAlgebra.Hierarchy
