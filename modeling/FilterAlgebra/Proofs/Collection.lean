import FilterAlgebra.Hierarchy
import Mathlib.Data.List.Nodup

/-!
# What is collected, and what is found

The properties of a class are collected along its order of lookup, from the least to
the most derived class, and an attribute is looked up along the same order, from the
most to the least derived class. `Hierarchy.get?_collect` says what the collection holds
under a name: the property of the most derived class that declares one there. Nothing
that is no property has a say in it, while a lookup stops at whatever it meets first;
`findSome?_bind_of_find` is all that the two searches have in common.

A table keeps every key once if it is made by putting, and only for such tables is an
entry of the listing what is found under its key.
-/

set_option autoImplicit false

namespace FilterAlgebra

namespace Table

variable {α : Type}

/-- Nothing is found exactly under what is no key. -/
theorem get?_eq_none_iff (table : Table α) (key : String) :
    get? table key = none ↔ key ∉ keys table := by
  induction table with
  | nil => simp [keys]
  | cons entry rest ih =>
    obtain ⟨k, v⟩ := entry
    rw [get?_cons]
    by_cases h : k = key
    · simp [h, keys]
    · simp only [h, if_false, ih, keys, List.map_cons, List.mem_cons, Ne.symm h, false_or]

/-- To put something under a key leaves every key where it occurs only once. -/
theorem nodup_keys_put {table : Table α} (once : table.keys.Nodup) (key : String) (value : α) :
    (table.put key value).keys.Nodup := by
  rw [keys_put]
  split
  · exact once
  · rename_i new
    exact List.Nodup.append once (List.nodup_singleton key)
      (List.disjoint_singleton.mpr new)

/-- To take an entry out leaves every key where it occurs only once. -/
theorem nodup_keys_remove {table : Table α} (once : table.keys.Nodup) (key : String) :
    (table.remove key).keys.Nodup :=
  once.sublist (List.filter_sublist.map _)

/-- A table made of entries has every key once, however often the entries name it. -/
theorem nodup_keys_ofEntries (entries : List (String × α)) : (ofEntries entries).keys.Nodup := by
  have puts (entries : List (String × α)) (table : Table α) (once : table.keys.Nodup) :
      (entries.foldl (fun table entry => put table entry.1 entry.2) table).keys.Nodup := by
    induction entries generalizing table with
    | nil => exact once
    | cons entry rest ih => exact ih _ (nodup_keys_put once entry.1 entry.2)
  exact puts entries [] List.nodup_nil

end Table

namespace Hierarchy

variable {α : Type} (property? : α → Option Text)

/-- The property that is declared under a name in a table of attributes, if one is. -/
def propertyOf? (own : Table (Slot α)) (name : String) : Option α :=
  (own.get? name).bind (declaredProperty? property?)

/-- A class without attributes declares no property. -/
@[simp] theorem propertyOf?_nil (name : String) : propertyOf? property? [] name = none := rfl

/-- A class without attributes adds nothing to what was found. -/
@[simp] theorem collectOwn_nil (found : Table α) : collectOwn property? found [] = found := rfl

/-- Attributes are gone through in their order; one that is a property is put under its name. -/
theorem collectOwn_cons (found : Table α) (name : String) (slot : Slot α) (rest : Table (Slot α)) :
    collectOwn property? found ((name, slot) :: rest) =
      collectOwn property? ((declaredProperty? property? slot).elim found (found.put name)) rest := by
  simp only [collectOwn, List.foldl_cons]
  cases declaredProperty? property? slot <;> rfl

/-- The attributes of one class, added to what was found: a property that the class declares
replaces what was found under its name, and every other attribute leaves it. -/
theorem get?_collectOwn {own : Table (Slot α)} (once : own.keys.Nodup) (found : Table α)
    (name : String) :
    (collectOwn property? found own).get? name =
      (propertyOf? property? own name).or (found.get? name) := by
  induction own generalizing found with
  | nil => simp
  | cons entry rest ih =>
    obtain ⟨k, slot⟩ := entry
    have notLater : k ∉ Table.keys rest := (List.nodup_cons.mp once).1
    rw [collectOwn_cons, ih (List.nodup_cons.mp once).2, propertyOf?, propertyOf?, Table.get?_cons]
    by_cases h : k = name
    · -- the name is not declared again in the rest, so this entry decides
      subst h
      rw [(Table.get?_eq_none_iff rest k).mpr notLater]
      cases hslot : declaredProperty? property? slot with
      | none => simp [hslot]
      | some content => simp [hslot, Table.get?_put_self]
    · rw [if_neg h]
      cases declaredProperty? property? slot with
      | none => rfl
      | some content => rw [Option.elim_some, Table.get?_put_of_ne found content h]

/-- The collection holds under a name the property of the most derived class that declares one
there, and nothing if no class does. -/
theorem get?_collect {owns : List (Table (Slot α))} (once : ∀ own ∈ owns, own.keys.Nodup)
    (name : String) :
    (collect property? owns).get? name = owns.findSome? (propertyOf? property? · name) := by
  induction owns with
  | nil => rfl
  | cons own rest ih =>
    have last : collect property? (own :: rest) = collectOwn property? (collect property? rest) own := by
      simp [collect]
    rw [last, get?_collectOwn property? (once own List.mem_cons_self),
      ih fun other hother => once other (List.mem_cons_of_mem own hother), List.findSome?_cons]
    cases propertyOf? property? own name <;> rfl

end Hierarchy

end FilterAlgebra
