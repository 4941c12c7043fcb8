/-!
# Ordered tables

A table is a list of entries, each with a key of its own. Putting a value under a
key that is present replaces the value and keeps the place; a new key goes to the
end. Order is part of a table, because listings show it.
-/

set_option autoImplicit false

namespace FilterAlgebra

/-- Entries in their order. -/
abbrev Table (α : Type) := List (String × α)

namespace Table

variable {α : Type}

/-- The value under a key: that of the first entry with the key. -/
def get? (table : Table α) (key : String) : Option α :=
  (table.find? (·.1 == key)).map (·.2)

/-- Puts a value under a key, in the place of the key if it is present and at the end otherwise. -/
def put (table : Table α) (key : String) (value : α) : Table α :=
  match table with
  | [] => [(key, value)]
  | (k, v) :: rest => if k = key then (k, value) :: rest else (k, v) :: put rest key value

/-- Takes the entry of a key out. -/
def remove (table : Table α) (key : String) : Table α :=
  table.filter (·.1 != key)

/-- The table of a list of entries, where of several with one key the first gives the place and
the last the value. -/
def ofEntries (entries : List (String × α)) : Table α :=
  entries.foldl (fun table (key, value) => put table key value) []

/-- The keys in their order. -/
def keys (table : Table α) : List String :=
  table.map (·.1)

@[simp] theorem get?_nil (key : String) : get? ([] : Table α) key = none := rfl

theorem get?_cons (k key : String) (v : α) (rest : Table α) :
    get? ((k, v) :: rest) key = if k = key then some v else get? rest key := by
  by_cases h : k = key <;> simp [get?, h]

/-- What was put under a key is found there. -/
theorem get?_put_self (table : Table α) (key : String) (value : α) :
    get? (put table key value) key = some value := by
  induction table with
  | nil => simp [put, get?_cons]
  | cons entry rest ih =>
    obtain ⟨k, v⟩ := entry
    by_cases h : k = key <;> simp [put, h, get?_cons, ih]

/-- Putting under one key leaves every other key alone. -/
theorem get?_put_of_ne (table : Table α) {key other : String} (value : α) (h : key ≠ other) :
    get? (put table key value) other = get? table other := by
  induction table with
  | nil => simp [put, get?_cons, h]
  | cons entry rest ih =>
    obtain ⟨k, v⟩ := entry
    by_cases hk : k = key
    · subst hk
      simp [put, get?_cons, h]
    · simp only [put, hk, if_false, get?_cons, ih]

/-- The keys after a put: a present key keeps its place, a new one comes last. -/
theorem keys_put (table : Table α) (key : String) (value : α) :
    keys (put table key value) = if key ∈ keys table then keys table else keys table ++ [key] := by
  induction table with
  | nil => simp [put, keys]
  | cons entry rest ih =>
    obtain ⟨k, v⟩ := entry
    by_cases h : k = key
    · subst h
      simp [put, keys]
    · have h' : ¬ key = k := fun e => h e.symm
      have ih' : List.map (fun x => x.1) (put rest key value) =
          if key ∈ List.map (fun x => x.1) rest then List.map (fun x => x.1) rest
          else List.map (fun x => x.1) rest ++ [key] := ih
      simp only [put, h, if_false, keys, List.map_cons, List.mem_cons, h', false_or, ih']
      split <;> simp

end Table

end FilterAlgebra
