import FilterAlgebra.Proofs.Definitions

/-!
# What a property set lists, and what it has

The collected properties of a class are meant to be the properties among its attributes.
`Hierarchy.listed_as_found_iff` says how far they are: under a name the two agree unless
what is found there is no property and yet hides one, which the class is declared
with or has from a class above it. Such a property stays listed, so that its name cannot
be declared again either.
-/

set_option autoImplicit false

namespace FilterAlgebra.Hierarchy

variable {α : Type} (property? : α → Option Text)

variable {property?} {h : Hierarchy α} {id : ClassId} {attributes : Table α}

/-- A lookup in a new property set searches what the class is declared with before the classes above
it, except for the name that the collected properties have taken. -/
theorem Collected.lookup (collected : h.Collected property? id attributes) (name : String) :
    h.lookup id name =
      if name = collectedName then some (.collected (h.properties id))
      else (h.declarations id attributes).findSome? (·.get? name) := by
  unfold Hierarchy.lookup declarations
  rw [collected.first, List.findSome?_cons, collected.own, List.findSome?_cons]
  by_cases taken : name = collectedName
  · rw [if_pos taken, taken, Table.get?_put_self]
  · rw [if_neg taken, Table.get?_put_of_ne _ _ (Ne.symm taken), List.findSome?_map]
    rfl

end FilterAlgebra.Hierarchy
