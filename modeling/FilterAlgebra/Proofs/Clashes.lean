import FilterAlgebra.Proofs.Definitions
import FilterAlgebra.Proofs.Walk

/-!
# Clashes of property names

A definition of a property set is refused if two of the collected properties have one name. The
check goes through them in their order and keeps the names it has met, so it reports the first
property with a name that was met before, after the one that had it (`Hierarchy.FirstClash`).
-/

set_option autoImplicit false

namespace FilterAlgebra

namespace Hierarchy

variable {α : Type} (property? : α → Option Text)

/-- The names of some properties, in their order. -/
def propertyNames (properties : Table α) : List String :=
  properties.map fun entry => propertyName property? entry.2

/-- Two properties, at the given places, have one name. -/
def Clash (properties : Table α) (i j : Nat) : Prop :=
  i < j ∧ j < properties.length ∧
    (propertyNames property? properties)[i]? = (propertyNames property? properties)[j]?

/-- A clash of which the later property comes first, and has no other earlier one of its name. -/
structure FirstClash (properties : Table α) (i j : Nat) : Prop where
  clash : Clash property? properties i j
  least : ∀ k l, Clash property? properties k l → j ≤ l
  only : ∀ k, Clash property? properties k j → k = i

variable {property?} {properties before rest : Table α} {i j k l : Nat}

/-- There is at most one first clash. -/
theorem FirstClash.unique (first : FirstClash property? properties i j)
    (other : FirstClash property? properties k l) : i = k ∧ j = l := by
  have hle := first.least k l other.clash
  have hge := other.least i j first.clash
  obtain rfl : j = l := by omega
  exact ⟨other.only i first.clash, rfl⟩

/-- What the check keeps of the properties it has met. -/
def met (property? : α → Option Text) (before : Table α) : List (String × String) :=
  before.map fun entry => (entry.1, propertyName property? entry.2)

/-- What the search has met after one more property. -/
theorem met_append (property? : α → Option Text) (before : Table α) (name : String) (content : α) :
    met property? before ++ [(name, propertyName property? content)] =
      met property? (before ++ [(name, content)]) := by
  simp [met]

/-- A name that the search has not met is the name of no property before. -/
theorem notMem_propertyNames_of_find? {name : String}
    (hmet : (met property? before).find? (·.2 = name) = none) :
    name ∉ propertyNames property? before := by
  intro known
  obtain ⟨entry, hentry, rfl⟩ := List.mem_map.mp known
  have passes := List.find?_eq_none.mp hmet _ (List.mem_map.mpr ⟨entry, hentry, rfl⟩)
  simp at passes

/-- A property with a new name leaves all names different. -/
theorem nodup_propertyNames_append (once : (propertyNames property? before).Nodup) (name : String)
    {content : α} (new : propertyName property? content ∉ propertyNames property? before) :
    (propertyNames property? (before ++ [(name, content)])).Nodup := by
  have names : propertyNames property? (before ++ [(name, content)]) =
      propertyNames property? before ++ [propertyName property? content] := by
    simp [propertyNames]
  rw [names]
  exact once.append (List.nodup_singleton _) (List.disjoint_singleton.mpr new)

/-- The check passes only what has no two properties of one name. Along the check, what was met are
the properties before, and their names are different. -/
theorem nodup_of_clashAfter (once : (propertyNames property? before).Nodup)
    (passed : clashAfter property? (met property? before) rest = none) :
    (propertyNames property? (before ++ rest)).Nodup := by
  induction rest generalizing before with
  | nil => simpa using once
  | cons entry rest ih =>
    obtain ⟨name, content⟩ := entry
    unfold clashAfter at passed
    cases hmet : (met property? before).find? (·.2 = propertyName property? content) with
    | some found => simp [hmet] at passed
    | none =>
      have onceMore := nodup_propertyNames_append once name (notMem_propertyNames_of_find? hmet)
      simp only [hmet, met_append] at passed
      simpa using ih onceMore passed

/-- A search that finds no clash has seen every name only once. -/
theorem nodup_of_clash? (passed : clash? property? properties = none) :
    (propertyNames property? properties).Nodup := by
  have once : (propertyNames property? ([] : Table α)).Nodup := List.nodup_nil
  exact nodup_of_clashAfter once passed

variable {h : Hierarchy α}

section Definition

variable {name : String} {bases : List ClassId} {attributes : Table α} {record : ClassRecord α}

end Definition

end Hierarchy

end FilterAlgebra
