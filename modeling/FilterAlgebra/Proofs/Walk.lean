import FilterAlgebra.Proofs.Collection

/-!
# The walk along an order of lookup

The collection of properties walks an order of lookup from the least to the most derived
class and puts every property it meets under its name. The last one that is put there is the
one of the most derived class, but it stands where the first one was put, so the value and
the place of an entry may come from different classes. `Hierarchy.collected_along_walk` is
the main result: what is collected, under which names, with which values and in which order.
-/

set_option autoImplicit false

namespace FilterAlgebra

/-- A list that names nothing twice is left alone where repetitions are left out. -/
theorem eraseDups_of_nodup {names : List String} (once : names.Nodup) : names.eraseDups = names := by
  induction names with
  | nil => rfl
  | cons name rest ih =>
    obtain ⟨new, onceRest⟩ := List.nodup_cons.mp once
    have others : rest.filter (fun other => !other == name) = rest := by
      refine List.filter_eq_self.mpr fun other hother => ?_
      have ne : other ≠ name := fun same => new (same ▸ hother)
      simpa using ne
    rw [List.eraseDups_cons, others, ih onceRest]

namespace Hierarchy

variable {α : Type} (property? : α → Option Text)

/-- The names under which a class declares properties, in the order of their declaration. -/
def declaredNames (own : Table (Slot α)) : List String :=
  Table.keys (own.filter fun entry => (declaredProperty? property? entry.2).isSome)

/-- A slot that holds a property adds its name to those declared. -/
theorem declaredNames_cons_some {name : String} {slot : Slot α} {content : α}
    (hslot : declaredProperty? property? slot = some content) (rest : Table (Slot α)) :
    declaredNames property? ((name, slot) :: rest) = name :: declaredNames property? rest := by
  simp [declaredNames, Table.keys, hslot]

/-- A slot that holds none adds nothing. -/
theorem declaredNames_cons_none {name : String} {slot : Slot α}
    (hslot : declaredProperty? property? slot = none) (rest : Table (Slot α)) :
    declaredNames property? ((name, slot) :: rest) = declaredNames property? rest := by
  simp [declaredNames, Table.keys, hslot]

/-- The names of the declared properties are among the keys, in their order. -/
theorem declaredNames_sublist (own : Table (Slot α)) :
    (declaredNames property? own).Sublist own.keys :=
  List.filter_sublist.map _

/-- No name is declared twice in a class where no attribute occurs twice. -/
theorem nodup_declaredNames {own : Table (Slot α)} (once : own.keys.Nodup) :
    (declaredNames property? own).Nodup :=
  once.sublist (declaredNames_sublist property? own)

/-- The attributes of one class, added to what was found: its new names come last, in the order of
their declaration. -/
theorem keys_collectOwn {own : Table (Slot α)} (once : own.keys.Nodup) (found : Table α) :
    (collectOwn property? found own).keys =
      found.keys ++ (declaredNames property? own).filter (· ∉ found.keys) := by
  induction own generalizing found with
  | nil => simp [declaredNames, Table.keys]
  | cons entry rest ih =>
    obtain ⟨name, slot⟩ := entry
    obtain ⟨notLater, onceRest⟩ := List.nodup_cons.mp once
    rw [collectOwn_cons, ih onceRest]
    cases hslot : declaredProperty? property? slot with
    | none => rw [Option.elim_none, declaredNames_cons_none property? hslot]
    | some content =>
      rw [Option.elim_some, declaredNames_cons_some property? hslot, Table.keys_put]
      by_cases known : name ∈ found.keys
      · simp [known]
      · -- the name is put at the end, and the rest does not declare it again
        have later : (declaredNames property? rest).filter (· ∉ found.keys ++ [name]) =
            (declaredNames property? rest).filter (· ∉ found.keys) := by
          refine List.filter_congr fun other hother => ?_
          have ne : other ≠ name := fun same =>
            notLater (same ▸ (declaredNames_sublist property? rest).subset hother)
          simp [ne]
        rw [if_neg known, later]
        simp [known]

/-- The most derived class is collected last. -/
theorem collect_cons (own : Table (Slot α)) (less : List (Table (Slot α))) :
    collect property? (own :: less) = collectOwn property? (collect property? less) own := by
  simp [collect]

/-- A class that is more derived than others adds to what they come to. -/
theorem keys_collect_cons {own : Table (Slot α)} (once : own.keys.Nodup)
    (less : List (Table (Slot α))) :
    (collect property? (own :: less)).keys =
      (collect property? less).keys ++
        (declaredNames property? own).filter (· ∉ (collect property? less).keys) := by
  rw [collect_cons, keys_collectOwn property? once]

/-- What less derived classes come to stands first, whatever is more derived. -/
theorem keys_collect_prefix {more less : List (Table (Slot α))}
    (once : ∀ own ∈ more, own.keys.Nodup) :
    (collect property? less).keys <+: (collect property? (more ++ less)).keys := by
  induction more with
  | nil => exact List.prefix_refl _
  | cons own more ih =>
    have before := ih fun other hother => once other (List.mem_cons_of_mem own hother)
    rw [List.cons_append, keys_collect_cons property? (once own List.mem_cons_self)]
    exact before.trans (List.prefix_append _ _)

variable {owns : List (Table (Slot α))}

/-- No property is collected twice under one name. -/
theorem nodup_keys_collect (once : ∀ own ∈ owns, own.keys.Nodup) :
    (collect property? owns).keys.Nodup := by
  induction owns with
  | nil => exact List.nodup_nil
  | cons own less ih =>
    have onceOwn := once own List.mem_cons_self
    have onceLess := ih fun other hother => once other (List.mem_cons_of_mem own hother)
    rw [keys_collect_cons property? onceOwn]
    refine onceLess.append ((nodup_declaredNames property? onceOwn).filter _) ?_
    intro name known new
    simpa [known] using (List.mem_filter.mp new).2

/-- The names stand in the order in which the walk meets them first. -/
theorem keys_collect (once : ∀ own ∈ owns, own.keys.Nodup) :
    (collect property? owns).keys =
      (owns.reverse.flatMap (declaredNames property?)).eraseDups := by
  induction owns with
  | nil => rfl
  | cons own less ih =>
    have onceOwn := once own List.mem_cons_self
    have keysLess := ih fun other hother => once other (List.mem_cons_of_mem own hother)
    have met (name : String) : name ∈ (collect property? less).keys ↔
        name ∈ less.reverse.flatMap (declaredNames property?) := by
      rw [keysLess, List.mem_eraseDups]
    have new : (declaredNames property? own).removeAll (less.reverse.flatMap (declaredNames property?)) =
        (declaredNames property? own).filter (· ∉ (collect property? less).keys) := by
      refine List.filter_congr fun name _ => ?_
      simp only [List.elem_eq_mem, met, decide_not]
    rw [keys_collect_cons property? onceOwn, List.reverse_cons, List.flatMap_append,
      List.eraseDups_append, ← keysLess, List.flatMap_singleton, new,
      eraseDups_of_nodup ((nodup_declaredNames property? onceOwn).filter _)]

/-- A name is collected exactly if some class declares a property under it. -/
theorem mem_keys_collect_iff (once : ∀ own ∈ owns, own.keys.Nodup) (name : String) :
    name ∈ (collect property? owns).keys ↔
      ∃ own ∈ owns, (propertyOf? property? own name).isSome := by
  rw [← List.findSome?_isSome_iff, ← get?_collect property? once, ← not_iff_not,
    ← Table.get?_eq_none_iff, Option.not_isSome_iff_eq_none]

/-- A property is declared under a name, and no more derived class declares another one there. -/
def Survives (owns : List (Table (Slot α))) (name : String) (content : α) : Prop :=
  ∃ more own less, owns = more ++ own :: less ∧ propertyOf? property? own name = some content ∧
    ∀ other ∈ more, propertyOf? property? other name = none

/-- What is collected is what survives. -/
theorem get?_collect_eq_some_iff (once : ∀ own ∈ owns, own.keys.Nodup) {name : String} {content : α} :
    (collect property? owns).get? name = some content ↔ Survives property? owns name content := by
  rw [get?_collect property? once, List.findSome?_eq_some_iff, Survives]

/-- **What the walk along an order of lookup collects.** A name is collected exactly if some class
declares a property under it; its value is that of the most derived such class. The names stand in the
order in which the walk, base first, meets them: those that a class is the least derived one to
declare come right after all that less derived classes declare, in the order of their declaration,
whichever class supplies their values. -/
theorem collected_along_walk (once : ∀ own ∈ owns, own.keys.Nodup) :
    (∀ name, name ∈ (collect property? owns).keys ↔
      ∃ own ∈ owns, (propertyOf? property? own name).isSome) ∧
    (∀ name content, (collect property? owns).get? name = some content ↔
      Survives property? owns name content) ∧
    (collect property? owns).keys.Nodup ∧
    (collect property? owns).keys =
      (owns.reverse.flatMap (declaredNames property?)).eraseDups ∧
    ∀ more own less, owns = more ++ own :: less →
      (collect property? less).keys ++
          (declaredNames property? own).filter (· ∉ (collect property? less).keys) <+:
        (collect property? owns).keys := by
  refine ⟨mem_keys_collect_iff property? once, fun _ _ => get?_collect_eq_some_iff property? once,
    nodup_keys_collect property? once, keys_collect property? once, ?_⟩
  rintro more own less rfl
  have onceOwn := once own (List.mem_append_right more List.mem_cons_self)
  rw [← keys_collect_cons property? onceOwn]
  exact keys_collect_prefix property? fun other hother => once other (List.mem_append_left _ hother)

/-- A class that declares `b` anew and `n` as no property, above a mixin with `a` and `c`, above one
that declares `a` and `b` first. -/
theorem collected_along_walk_of_redeclared :
    let child : Table (Slot (Option Text)) :=
      [("n", .declared none), ("b", .declared (some (.plain "second")))]
    let mixin : Table (Slot (Option Text)) :=
      [("c", .declared (some (.plain "third"))), ("a", .declared (some (.plain "other")))]
    let base : Table (Slot (Option Text)) :=
      [("a", .declared (some (.plain "first"))), ("b", .declared (some (.plain "last")))]
    (∀ own ∈ [child, mixin, base], own.keys.Nodup) ∧
      (collect id [child, mixin, base]).keys = ["a", "b", "c"] ∧
      (collect id [child, mixin, base]).get? "a" = some (some (.plain "other")) ∧
      (collect id [child, mixin, base]).get? "b" = some (some (.plain "second")) ∧
      "n" ∉ (collect id [child, mixin, base]).keys := by
  intro child mixin base
  have once : ∀ own ∈ [child, mixin, base], own.keys.Nodup := by
    simp [child, mixin, base, Table.keys]
  obtain ⟨listed, value, -, order, -⟩ := collected_along_walk id once
  refine ⟨once, order.trans rfl, ?_, ?_, ?_⟩
  · exact (value "a" _).mpr ⟨[child], mixin, [base], rfl, rfl, by simp [child, propertyOf?, Table.get?]⟩
  · exact (value "b" _).mpr ⟨[], child, [mixin, base], rfl, rfl, by simp⟩
  · rw [listed]
    rintro ⟨own, hown, declares⟩
    simp only [List.mem_cons, List.not_mem_nil, or_false] at hown
    rcases hown with rfl | rfl | rfl <;> cases declares

end Hierarchy

end FilterAlgebra
