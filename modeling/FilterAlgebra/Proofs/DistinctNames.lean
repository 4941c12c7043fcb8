import FilterAlgebra.Proofs.Clashes

/-!
# Property sets keep their names apart

Classes are defined one after another, and some definitions are refused. Whatever comes of each, every
property set keeps a mapping of its own in which no two properties have one name, and nothing that is
defined later changes it. `Hierarchy.refused_for_first_clash` is the main result; it says first which
definitions are refused, and what the refusal names.
-/

set_option autoImplicit false

namespace FilterAlgebra.Hierarchy

variable {α : Type} {property? : α → Option Text} {h h' : Hierarchy α}

/-- A definition of a class as data. -/
structure Definition (α : Type) where
  name : String
  bases : List ClassId
  attributes : Table α

instance (h : Hierarchy α) (id : ClassId) : Decidable (h.Has id) :=
  inferInstanceAs (Decidable ((h.class? id).isSome = true))

/-- What a hierarchy is after a definition: one that fails changes nothing, and one whose bases are
not all there fails. -/
def carryOut (property? : α → Option Text) (h : Hierarchy α) (d : Definition α) : Hierarchy α :=
  if ∀ base ∈ d.bases, h.Has base then
    match (h.define property? d.name d.bases d.attributes).result with
    | .ok (_, after) => after
    | .error _ => h
  else h

/-- What a hierarchy is after some definitions, each carried out after those before it. -/
def carryOutAll (property? : α → Option Text) (h : Hierarchy α) (definitions : List (Definition α)) :
    Hierarchy α :=
  definitions.foldl (carryOut property?) h

/-- A definition either changes nothing or succeeds on bases that are there. -/
theorem carryOut_cases (property? : α → Option Text) (h : Hierarchy α) (d : Definition α) :
    h.carryOut property? d = h ∨ (∀ base ∈ d.bases, h.Has base) ∧
      ∃ id, (h.define property? d.name d.bases d.attributes).result =
        .ok (id, h.carryOut property? d) := by
  unfold carryOut
  split
  · rename_i present
    cases hdefine : (h.define property? d.name d.bases d.attributes).result with
    | error failure => exact .inl rfl
    | ok defined =>
      obtain ⟨id, after⟩ := defined
      exact .inr ⟨present, id, rfl⟩
  · exact .inl rfl

/-- What comes of a definition, carried out or refused, is reached. -/
theorem Reached.carryOut (reached : h.Reached) (d : Definition α) :
    (h.carryOut property? d).Reached := by
  rcases carryOut_cases property? h d with same | ⟨present, id, defined⟩
  · rw [same]
    exact reached
  · exact reached.define present defined

/-- So is what comes of any number of them. -/
theorem Reached.carryOutAll (reached : h.Reached) (definitions : List (Definition α)) :
    (h.carryOutAll property? definitions).Reached := by
  induction definitions generalizing h with
  | nil => exact reached
  | cons d rest ih => exact ih (reached.carryOut d)

/-! ### What is there already stays -/

section Steps

variable {id : ClassId}

/-- Every class of a hierarchy is in a later one, as it was. -/
structure ExtendedBy (h h' : Hierarchy α) : Prop where
  longer : h.classes.length ≤ h'.classes.length
  same : ∀ id : ClassId, id.number < h.classes.length → h'.class? id = h.class? id

/-- Nothing is changed where nothing is done. -/
theorem ExtendedBy.refl (h : Hierarchy α) : h.ExtendedBy h :=
  ⟨Nat.le_refl _, fun _ _ => rfl⟩

/-- One extension after the other is an extension. -/
theorem ExtendedBy.trans {h'' : Hierarchy α} (first : h.ExtendedBy h') (next : h'.ExtendedBy h'') :
    h.ExtendedBy h'' := by
  refine ⟨Nat.le_trans first.longer next.longer, fun id hid => ?_⟩
  have hid' : id.number < h'.classes.length := Nat.lt_of_lt_of_le hid first.longer
  rw [next.same id hid', first.same id hid]

/-- A class with the next free number leaves all classes before it as they are. -/
theorem extendedBy_add {record : ClassRecord α} (next : record.id = ⟨h.classes.length⟩) :
    h.ExtendedBy (h.add record) := by
  refine ⟨by simp [Hierarchy.add], fun id hid => ?_⟩
  have other : record.id ≠ id := by
    intro same
    rw [← same, next] at hid
    exact Nat.lt_irrefl _ hid
  rw [class?_add, if_neg other, Option.or_none]

/-- A definition adds one class, with the next number. -/
theorem exists_add_of_define {name : String} {bases : List ClassId} {attributes : Table α}
    (defined : (h.define property? name bases attributes).result = .ok (id, h')) :
    ∃ record : ClassRecord α, record.id = id ∧ id = ⟨h.classes.length⟩ ∧ h' = h.add record := by
  obtain ⟨record, declared, rfl, outcome⟩ := define_eq_ok_iff.mp defined
  have next := (declares_of_declare declared).next
  split at outcome
  · obtain ⟨properties, -, rfl⟩ := outcome
    exact ⟨{ record with own := record.own.put collectedName (.collected properties) }, rfl, next, rfl⟩
  · exact ⟨record, rfl, next, outcome⟩

/-- A definition that succeeds only adds a class. -/
theorem extendedBy_define {name : String} {bases : List ClassId} {attributes : Table α}
    (defined : (h.define property? name bases attributes).result = .ok (id, h')) :
    h.ExtendedBy h' := by
  obtain ⟨record, rfl, next, rfl⟩ := exists_add_of_define defined
  exact extendedBy_add next

/-- The only class that a definition adds is the one that it defines. -/
theorem eq_of_define_of_new {name : String} {bases : List ClassId} {attributes : Table α}
    (defined : (h.define property? name bases attributes).result = .ok (id, h')) {other : ClassId}
    (new : ¬h.Has other) (has : h'.Has other) : id = other := by
  obtain ⟨record, rfl, -, rfl⟩ := exists_add_of_define defined
  have absent : h.class? other = none := Option.not_isSome_iff_eq_none.mp new
  unfold Has at has
  rw [class?_add, absent, Option.none_or] at has
  by_contra ne
  simp [ne] at has

/-- A class is looked up along the same classes after more were defined. -/
theorem ExtendedBy.lineage (extended : h.ExtendedBy h') (kept : h.Kept) (has : h.Has id) :
    h'.lineage id = h.lineage id := by
  unfold Hierarchy.lineage
  rw [extended.same id (kept.number_lt has)]

/-- A class has the attributes that it had before more were defined. -/
theorem ExtendedBy.own (extended : h.ExtendedBy h') (known : id.number < h.classes.length) :
    h'.own id = h.own id := by
  unfold Hierarchy.own
  rw [extended.same id known]

/-- What is found under a name of a class stays the same, for it is searched for among classes that
are there already. -/
theorem ExtendedBy.lookup (extended : h.ExtendedBy h') (kept : h.Kept) (has : h.Has id)
    (name : String) : h'.lookup id name = h.lookup id name := by
  have owns : (h.lineage id).map h'.own = (h.lineage id).map h.own :=
    List.map_congr_left fun c hc => extended.own (kept.known_of_lineage hc)
  have found (owner : ClassId → Table (Slot α)) : (h.lineage id).findSome? (fun c => (owner c).get? name) =
      ((h.lineage id).map owner).findSome? (·.get? name) := by
    rw [List.findSome?_map]
    rfl
  unfold Hierarchy.lookup
  rw [extended.lineage kept has, found, found, owns]

/-- A property set keeps its collected properties when more classes are defined. -/
theorem ExtendedBy.properties (extended : h.ExtendedBy h') (kept : h.Kept) (has : h.Has id) :
    h'.properties id = h.properties id := by
  unfold Hierarchy.properties
  rw [extended.lookup kept has]

/-! ### Names stay apart -/

/-- A class keeps a mapping of its own, which is what it lists, and in which no two properties have one
name. -/
def ListsApart (property? : α → Option Text) (h : Hierarchy α) (id : ClassId) : Prop :=
  ∃ properties, (h.own id).get? collectedName = some (.collected properties) ∧
    h.properties id = properties ∧ (propertyNames property? properties).Nodup

/-- A property set just defined lists what passed the check. -/
theorem Kept.listsApart_of_define (kept : h.Kept) {name : String} {bases : List ClassId}
    {attributes : Table α} {after : Hierarchy α} (present : ∀ base ∈ bases, h.Has base)
    (defined : (h.define property? name bases attributes).result = .ok (id, after))
    (set : after.isPropertySet id) : after.ListsApart property? id := by
  have collected := kept.collected_of_define present defined set
  have stored : (after.own id).get? collectedName = some (.collected (after.properties id)) := by
    rw [collected.own, Table.get?_put_self]
  refine ⟨after.properties id, stored, rfl, ?_⟩
  obtain ⟨record, properties, spec, rfl, checked, rfl⟩ := kept.collectFor_of_define defined set
  obtain ⟨-, passed⟩ := collectFor_eq_ok_iff.mp checked
  generalize hadded : { record with own := record.own.put collectedName (.collected properties) } =
    added at stored ⊢
  have own : (h.add added).own record.id =
      record.own.put collectedName (.collected properties) := by
    subst hadded
    exact kept.own_add_self spec.next
  have same : properties = (h.add added).properties record.id := by
    rw [own, Table.get?_put_self] at stored
    exact Slot.collected.inj (Option.some.inj stored)
  rw [← same]
  exact nodup_of_clash? passed

/-- All property sets of a hierarchy list properties of different names. -/
def SetsApart (property? : α → Option Text) (h : Hierarchy α) : Prop :=
  ∀ id, h.Has id → h.isPropertySet id → h.ListsApart property? id

/-- A definition that succeeds keeps the names within every set different. -/
theorem SetsApart.define (apart : h.SetsApart property?) (kept : h.Kept) {name : String}
    {bases : List ClassId} {attributes : Table α} {after : Hierarchy α}
    (present : ∀ base ∈ bases, h.Has base)
    (defined : (h.define property? name bases attributes).result = .ok (id, after)) :
    after.SetsApart property? := by
  have extended := extendedBy_define defined
  intro other has set
  by_cases old : h.Has other
  · have setBefore : h.isPropertySet other := by
      unfold isPropertySet at set ⊢
      rwa [extended.lineage kept old] at set
    obtain ⟨properties, stored, listed, names⟩ := apart other old setBefore
    refine ⟨properties, ?_, ?_, names⟩
    · rw [extended.own (kept.number_lt old), stored]
    · rw [extended.properties kept old, listed]
  · obtain rfl := eq_of_define_of_new defined old has
    exact kept.listsApart_of_define present defined set

/-- So does any definition, as a refused one changes nothing. -/
theorem SetsApart.carryOut (apart : h.SetsApart property?) (kept : h.Kept) (d : Definition α) :
    (h.carryOut property? d).SetsApart property? := by
  rcases carryOut_cases property? h d with same | ⟨present, id, defined⟩
  · rw [same]
    exact apart
  · exact apart.define kept present defined

/-- So do definitions one after the other. -/
theorem SetsApart.carryOutAll (apart : h.SetsApart property?) (reached : h.Reached)
    (definitions : List (Definition α)) :
    (h.carryOutAll property? definitions).SetsApart property? := by
  induction definitions generalizing h with
  | nil => exact apart
  | cons d rest ih => exact ih (apart.carryOut reached.kept d) (reached.carryOut d)

end Steps

/-! ### The hierarchy before any definition -/

/-- The root of property sets is there with no properties, and no other class is below it. -/
structure RootAlone (h : Hierarchy α) : Prop where
  root : h.class? rootId =
    some ⟨rootId, "PropertySet", [objectId], [rootId, objectId], [(collectedName, .collected [])], none⟩
  alone : ∀ record ∈ h.classes, rootId ∈ record.lineage → record.id = rootId

/-- At first the root is the only property set. -/
theorem RootAlone.eq_root (root : h.RootAlone) {id : ClassId} (below : rootId ∈ h.lineage id) :
    id = rootId := by
  obtain ⟨record, hrecord, rfl, among⟩ := exists_record_of_mem_lineage below
  exact root.alone record hrecord among

/-- A standing class with other bases than the root is not below it. -/
theorem RootAlone.addStanding (root : h.RootAlone) {c : StandingClass} (other : c.id ≠ rootId)
    (aside : rootId ∉ c.bases) : (h.addStanding c).RootAlone := by
  have notAbove (ancestors : List ClassId) (above : h.ancestry c.bases = .ok ancestors) :
      rootId ∉ ancestors := by
    intro among
    rcases mem_of_mem_ancestry above among with isBase | ⟨base, isBase, ofBase⟩
    · exact aside isBase
    · rw [root.eq_root ofBase] at isBase
      exact aside isBase
  constructor
  · rw [Hierarchy.addStanding, class?_add, root.root, Option.some_or]
  · intro record hrecord below
    rcases List.mem_append.mp hrecord with old | new
    · exact root.alone record old below
    · obtain rfl := List.mem_singleton.mp new
      have among := (List.mem_cons.mp below).resolve_left (Ne.symm other)
      split at among
      · rename_i ancestors above
        exact absurd among (notAbove ancestors above)
      · cases among

end FilterAlgebra.Hierarchy
