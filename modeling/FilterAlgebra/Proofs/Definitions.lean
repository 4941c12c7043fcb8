import FilterAlgebra.Hierarchy.Standing
import FilterAlgebra.Proofs.Collection

/-!
# Hierarchies that come about

Classes are defined one after another, each on bases that are there, and between
definitions attributes are set and deleted. `Hierarchy.Reached` are the hierarchies that
come about so, and `Hierarchy.Kept` is what all of them keep: classes have numbers below
that of the next class, orders of lookup name only classes that are there, and no class has
two attributes of one name.

`define_eq_ok_iff` says once what a definition does.
-/

set_option autoImplicit false

namespace FilterAlgebra

namespace Lineage

variable {α : Type} [DecidableEq α]

/-- What comes next is taken from one of the orders. -/
theorem mem_of_choose {orders : List (List α)} {c : α} (chosen : choose orders = some c) :
    ∃ order ∈ orders, c ∈ order := by
  have head : c ∈ heads orders := List.mem_of_find?_eq_some chosen
  obtain ⟨order, horder, first⟩ := List.mem_filterMap.mp head
  exact ⟨order, horder, List.mem_of_mem_head? first⟩

/-- To advance an order takes classes away and adds none. -/
theorem mem_of_mem_advance {c d : α} {order : List α} (h : d ∈ advance c order) : d ∈ order := by
  cases order with
  | nil => exact h
  | cons head tail =>
    rw [advance] at h
    split at h
    · exact List.mem_cons_of_mem head h
    · exact h

/-- A merge of orders has only elements of the orders. -/
theorem mem_of_mem_mergeWithin {steps : Nat} {orders : List (List α)} {order : List α} {c : α}
    (merged : mergeWithin steps orders = .ok order) (h : c ∈ order) :
    ∃ order ∈ orders, c ∈ order := by
  induction steps generalizing orders order with
  | zero =>
    cases merged
    cases h
  | succ steps ih =>
    unfold mergeWithin at merged
    split at merged
    · cases merged
      cases h
    · cases hnext : choose orders with
      | none => simp [hnext] at merged
      | some d =>
        rw [hnext] at merged
        cases hrest : mergeWithin steps (orders.map (advance d)) with
        | error blocked => simp [hrest] at merged
        | ok rest =>
          simp only [hrest, Except.map_ok, Except.ok.injEq] at merged
          subst merged
          rcases List.mem_cons.mp h with rfl | later
          · exact mem_of_choose hnext
          · obtain ⟨advanced, hadvanced, hc⟩ := ih hrest later
            obtain ⟨before, hbefore, rfl⟩ := List.mem_map.mp hadvanced
            exact ⟨before, hbefore, mem_of_mem_advance hc⟩

end Lineage

namespace Hierarchy

variable {α : Type} {property? : α → Option Text} {h : Hierarchy α}

/-- What every hierarchy keeps that comes about by definitions. -/
structure Kept (h : Hierarchy α) : Prop where
  /-- The root of property sets is there. -/
  rooted : rootId.number < h.classes.length
  /-- The next class gets a number that no class has. -/
  numbered : ∀ record ∈ h.classes, record.id.number < h.classes.length
  /-- No order of lookup names a class that is not there yet. -/
  known : ∀ record ∈ h.classes, ∀ c ∈ record.lineage, c.number < h.classes.length
  /-- No class has two attributes of one name. -/
  once : ∀ record ∈ h.classes, record.own.keys.Nodup

/-- What a class is searched along is in the order of lookup of its record. -/
theorem exists_record_of_mem_lineage {id c : ClassId} (hc : c ∈ h.lineage id) :
    ∃ record ∈ h.classes, record.id = id ∧ c ∈ record.lineage := by
  unfold lineage at hc
  cases hrecord : h.class? id with
  | none =>
    rw [hrecord] at hc
    exact absurd hc List.not_mem_nil
  | some record =>
    rw [hrecord] at hc
    have own : record.id = id := by simpa using List.find?_some hrecord
    exact ⟨record, List.mem_of_find?_eq_some hrecord, own, hc⟩

/-- What stands above a class is one of its bases or in the order of lookup of one. -/
theorem mem_of_mem_ancestry {bases ancestors : List ClassId} (above : h.ancestry bases = .ok ancestors)
    {c : ClassId} (hc : c ∈ ancestors) : c ∈ bases ∨ ∃ base ∈ bases, c ∈ h.lineage base := by
  unfold ancestry at above
  split at above
  · cases above
  · split at above
    · rename_i order merged
      cases above
      obtain ⟨order, horder, hc⟩ := Lineage.mem_of_mem_mergeWithin merged hc
      rcases List.mem_append.mp horder with ofBase | last
      · obtain ⟨base, hbase, rfl⟩ := List.mem_map.mp ofBase
        exact .inr ⟨base, hbase, hc⟩
      · rw [List.mem_singleton.mp last] at hc
        exact .inl hc
    · cases above

namespace Kept

/-- The order of lookup of a class names only classes that are there. -/
theorem known_of_lineage (kept : h.Kept) {id c : ClassId} (hc : c ∈ h.lineage id) :
    c.number < h.classes.length := by
  obtain ⟨record, hrecord, -, hc⟩ := exists_record_of_mem_lineage hc
  exact kept.known record hrecord c hc

/-- What stands above bases that are there is there, too. -/
theorem known_of_ancestry (kept : h.Kept) {bases ancestors : List ClassId}
    (present : ∀ base ∈ bases, base.number < h.classes.length)
    (above : h.ancestry bases = .ok ancestors) : ∀ c ∈ ancestors, c.number < h.classes.length := by
  intro c hc
  rcases mem_of_mem_ancestry above hc with isBase | ⟨base, _, ofBase⟩
  · exact present c isBase
  · exact kept.known_of_lineage ofBase

/-- A further class may be added if it has the next number, is searched before classes that are
there, and has no two attributes of one name. -/
theorem add (kept : h.Kept) {record : ClassRecord α} {ancestors : List ClassId}
    (next : record.id = ⟨h.classes.length⟩) (lineage : record.lineage = record.id :: ancestors)
    (known : ∀ c ∈ ancestors, c.number < h.classes.length) (once : record.own.keys.Nodup) :
    (h.add record).Kept := by
  have longer : (h.add record).classes.length = h.classes.length + 1 := List.length_append
  have each {P : ClassRecord α → Prop} (old : ∀ other ∈ h.classes, P other) (new : P record) :
      ∀ other ∈ (h.add record).classes, P other := by
    intro other hother
    rcases List.mem_append.mp hother with hold | hnew
    · exact old other hold
    · rw [List.mem_singleton.mp hnew]
      exact new
  have last : record.id.number < h.classes.length + 1 := by
    rw [next]
    exact Nat.lt_succ_self _
  constructor
  · rw [longer]
    exact Nat.lt_succ_of_lt kept.rooted
  · rw [longer]
    exact each (fun other hother => Nat.lt_succ_of_lt (kept.numbered other hother)) last
  · rw [longer]
    refine each (fun other hother c hc => Nat.lt_succ_of_lt (kept.known other hother c hc)) ?_
    intro c hc
    rw [lineage] at hc
    rcases List.mem_cons.mp hc with rfl | above
    · exact last
    · exact Nat.lt_succ_of_lt (known c above)
  · exact each kept.once once

/-- A change of the attributes of a class keeps what is kept, if it makes no name come twice. -/
theorem modify_own (kept : h.Kept) (id : ClassId) {change : Table (Slot α) → Table (Slot α)}
    (once : ∀ own, own.keys.Nodup → (change own).keys.Nodup) :
    (h.modify id fun record => { record with own := change record.own }).Kept := by
  have changed {P : ClassRecord α → Prop} (old : ∀ record ∈ h.classes, P record)
      (step : ∀ record, P record → P { record with own := change record.own }) :
      ∀ record ∈ (h.modify id fun record => { record with own := change record.own }).classes,
        P record := by
    intro other hother
    obtain ⟨record, hrecord, rfl⟩ := List.mem_map.mp hother
    split
    · exact step record (old record hrecord)
    · exact old record hrecord
  have length : (h.modify id fun record => { record with own := change record.own }).classes.length =
      h.classes.length := List.length_map _
  constructor
  · rw [length]
    exact kept.rooted
  · rw [length]
    exact changed kept.numbered fun _ old => old
  · rw [length]
    exact changed kept.known fun _ old => old
  · exact changed kept.once fun record old => once record.own old

end Kept

/-- The attributes of a class as it is declared with them. -/
def declaredSlots (attributes : Table α) : Table (Slot α) :=
  (Table.ofEntries attributes).map fun (name, content) => (name, .declared content)

/-- Of several declarations of one name only one slot is left. -/
theorem nodup_keys_declaredSlots (attributes : Table α) : (declaredSlots attributes).keys.Nodup := by
  have same : (declaredSlots attributes).keys = (Table.ofEntries attributes).keys := by
    simp [declaredSlots, Table.keys]
  rw [same]
  exact Table.nodup_keys_ofEntries attributes

/-- What a declared class is: it has the next number, is searched before the classes above it, and
has the attributes that it is declared with. -/
structure Declares (h : Hierarchy α) (bases : List ClassId) (attributes : Table α)
    (record : ClassRecord α) : Prop where
  next : record.id = ⟨h.classes.length⟩
  above : h.ancestry bases = .ok record.lineage.tail
  lineage : record.lineage = record.id :: record.lineage.tail
  own : record.own = declaredSlots attributes

/-- A definition that passes all checks gives a record that says what was declared. -/
theorem declares_of_declare {name : String} {bases : List ClassId} {attributes : Table α}
    {record : ClassRecord α} (declared : h.declare name bases attributes = .ok record) :
    h.Declares bases attributes record := by
  unfold declare at declared
  cases hcheck : h.checkDefinition name bases with
  | error fault =>
    rw [hcheck] at declared
    cases declared
  | ok =>
    cases habove : h.ancestry bases with
    | error fault =>
      rw [hcheck, habove] at declared
      cases declared
    | ok ancestors =>
      rw [hcheck, habove] at declared
      cases declared
      exact ⟨rfl, habove, rfl, rfl⟩

/-- The properties of a new class are all that is collected, unless two of them have one name. -/
theorem collectFor_eq_ok_iff {name : String} {ancestors : List ClassId} {own : Table (Slot α)}
    {properties : Table α} :
    collectFor property? h name ancestors own = .ok properties ↔
      properties = collect property? (own :: ancestors.map h.own) ∧
        clash? property? properties = none := by
  simp only [collectFor]
  cases hclash : clash? property? (collect property? (own :: ancestors.map h.own)) with
  | none =>
    constructor
    · intro collected
      cases collected
      exact ⟨rfl, hclash⟩
    · rintro ⟨rfl, -⟩
      rfl
  | some clash =>
    constructor
    · intro collected
      cases collected
    · rintro ⟨rfl, noClash⟩
      rw [hclash] at noClash
      cases noClash

/-- What a definition does: it declares a class, and if the class is a property set, also collects
its properties and keeps them in place of what was declared under their name. -/
theorem define_eq_ok_iff {name : String} {bases : List ClassId} {attributes : Table α}
    {id : ClassId} {after : Hierarchy α} :
    (h.define property? name bases attributes).result = .ok (id, after) ↔
      ∃ record, h.declare name bases attributes = .ok record ∧ id = record.id ∧
        if rootId ∈ record.lineage.tail then
          ∃ properties, collectFor property? h name record.lineage.tail record.own = .ok properties ∧
            after = h.add { record with own := record.own.put collectedName (.collected properties) }
        else after = h.add record := by
  unfold define
  rw [Traced.result_bind_eq_ok]
  refine exists_congr fun record => and_congr Traced.result_ofFault_eq_ok ?_
  by_cases set : rootId ∈ record.lineage.tail
  · have set' : record.lineage.tail.contains rootId = true := List.contains_iff_mem.mpr set
    rw [if_pos set, if_pos set', Traced.result_bind_eq_ok]
    constructor
    · rintro ⟨properties, collected, rest⟩
      obtain ⟨-, rest⟩ := Traced.result_check_eq_ok.mp rest
      cases rest
      exact ⟨rfl, properties, collected, rfl⟩
    · rintro ⟨rfl, properties, collected, rfl⟩
      exact ⟨properties, collected, Traced.result_check_eq_ok.mpr ⟨rfl, rfl⟩⟩
  · have set' : ¬ record.lineage.tail.contains rootId = true := by rwa [List.contains_iff_mem]
    rw [if_neg set, if_neg set']
    simp [eq_comm]

section Addition

variable {record : ClassRecord α}

/-- A class is found after an addition if it was added or there before. -/
theorem class?_add (id : ClassId) :
    (h.add record).class? id = (h.class? id).or (if record.id = id then some record else none) := by
  unfold class? add
  rw [List.find?_append, List.find?_singleton]
  simp only [decide_eq_true_eq]

/-- The record of a class with the next number is found when it has been added. -/
theorem Kept.class?_add_self (kept : h.Kept) (next : record.id = ⟨h.classes.length⟩) :
    (h.add record).class? record.id = some record := by
  have new : h.class? record.id = none := by
    refine List.find?_eq_none.mpr fun other hother same => ?_
    have below := kept.numbered other hother
    rw [of_decide_eq_true same, next] at below
    exact absurd below (Nat.lt_irrefl _)
  rw [class?_add, new, if_pos rfl, Option.none_or]

/-- A class added last is looked up along its own record. -/
theorem Kept.lineage_add_self (kept : h.Kept) (next : record.id = ⟨h.classes.length⟩) :
    (h.add record).lineage record.id = record.lineage := by
  unfold lineage
  rw [kept.class?_add_self next]
  rfl

/-- A class added last has the attributes of its own record. -/
theorem Kept.own_add_self (kept : h.Kept) (next : record.id = ⟨h.classes.length⟩) :
    (h.add record).own record.id = record.own := by
  unfold own
  rw [kept.class?_add_self next]
  rfl

/-- An addition leaves every other class its attributes. -/
theorem own_add_of_ne {id : ClassId} (ne : record.id ≠ id) : (h.add record).own id = h.own id := by
  unfold own
  rw [class?_add, if_neg ne, Option.or_none]

end Addition

/-- A class is in the hierarchy. -/
def Has (h : Hierarchy α) (id : ClassId) : Prop :=
  (h.class? id).isSome

/-- The number of a class tells that it came before all that are still to come. -/
theorem Kept.number_lt (kept : h.Kept) {id : ClassId} (has : h.Has id) :
    id.number < h.classes.length := by
  obtain ⟨record, found⟩ := Option.isSome_iff_exists.mp has
  have same : record.id = id := by
    unfold class? at found
    simpa using List.find?_some found
  rw [← same]
  exact kept.numbered record (List.mem_of_find?_eq_some found)

/-- All classes above bases that are there have numbers in use. -/
theorem Kept.known_above (kept : h.Kept) {bases ancestors : List ClassId}
    (present : ∀ base ∈ bases, h.Has base) (above : h.ancestry bases = .ok ancestors) :
    ∀ c ∈ ancestors, c.number < h.classes.length :=
  kept.known_of_ancestry (fun base hbase => kept.number_lt (present base hbase)) above

/-- A definition keeps what every hierarchy keeps. -/
theorem Kept.define (kept : h.Kept) {name : String} {bases : List ClassId} {attributes : Table α}
    {id : ClassId} {after : Hierarchy α} (present : ∀ base ∈ bases, h.Has base)
    (defined : (h.define property? name bases attributes).result = .ok (id, after)) : after.Kept := by
  obtain ⟨record, declared, -, outcome⟩ := define_eq_ok_iff.mp defined
  have spec := declares_of_declare declared
  have known := kept.known_above present spec.above
  have once : record.own.keys.Nodup := spec.own ▸ nodup_keys_declaredSlots attributes
  split at outcome
  · obtain ⟨properties, -, rfl⟩ := outcome
    exact kept.add spec.next spec.lineage known (Table.nodup_keys_put once collectedName _)
  · rw [outcome]
    exact kept.add spec.next spec.lineage known once

/-- What is declared along the order of lookup of a new class: the attributes of the class, and those
of each class above it. -/
def declarations (h : Hierarchy α) (id : ClassId) (attributes : Table α) : List (Table (Slot α)) :=
  declaredSlots attributes :: (h.lineage id).tail.map h.own

/-- A property set just defined: it is searched first, it holds as its collected properties what
is collected from all that is declared along its order of lookup, and apart from these it holds
what it is declared with. -/
structure Collected (property? : α → Option Text) (h : Hierarchy α) (id : ClassId)
    (attributes : Table α) : Prop where
  first : h.lineage id = id :: (h.lineage id).tail
  own : h.own id = (declaredSlots attributes).put collectedName (.collected (h.properties id))
  properties : h.properties id = collect property? (h.declarations id attributes)

/-- A class that is searched first has the collected properties that it holds itself. -/
theorem properties_of_own {id : ClassId} {rest : List ClassId} {properties : Table α}
    (first : h.lineage id = id :: rest)
    (own : (h.own id).get? collectedName = some (.collected properties)) :
    h.properties id = properties := by
  unfold Hierarchy.properties lookup
  rw [first, List.findSome?_cons, own]

/-- A definition that comes to a property set has collected its properties. -/
theorem Kept.collectFor_of_define (kept : h.Kept) {name : String} {bases : List ClassId}
    {attributes : Table α} {id : ClassId} {after : Hierarchy α}
    (defined : (h.define property? name bases attributes).result = .ok (id, after))
    (set : after.isPropertySet id) :
    ∃ record properties, h.Declares bases attributes record ∧ id = record.id ∧
      collectFor property? h name record.lineage.tail record.own = .ok properties ∧
      after = h.add { record with own := record.own.put collectedName (.collected properties) } := by
  obtain ⟨record, declared, rfl, outcome⟩ := define_eq_ok_iff.mp defined
  have spec := declares_of_declare declared
  split at outcome
  · obtain ⟨properties, collected, rfl⟩ := outcome
    exact ⟨record, properties, spec, rfl, collected, rfl⟩
  · -- a class that has the root of property sets above it only by being the root itself
    rename_i rootless
    rw [outcome] at set
    have member : rootId ∈ (h.add record).lineage record.id := List.contains_iff_mem.mp set
    rw [kept.lineage_add_self spec.next, spec.lineage] at member
    rcases List.mem_cons.mp member with same | above
    · have rooted := kept.rooted
      rw [same, spec.next] at rooted
      exact absurd rooted (Nat.lt_irrefl _)
    · exact absurd above rootless

/-- What is there once a property set has been defined. -/
theorem Kept.collected_of_define (kept : h.Kept) {name : String} {bases : List ClassId}
    {attributes : Table α} {id : ClassId} {after : Hierarchy α}
    (present : ∀ base ∈ bases, h.Has base)
    (defined : (h.define property? name bases attributes).result = .ok (id, after))
    (set : after.isPropertySet id) : after.Collected property? id attributes := by
  obtain ⟨record, properties, spec, rfl, collected, rfl⟩ := kept.collectFor_of_define defined set
  have known := kept.known_above present spec.above
  obtain ⟨rfl, -⟩ := collectFor_eq_ok_iff.mp collected
  generalize hproperties : collect property? (record.own :: record.lineage.tail.map h.own) =
    properties
  generalize hadded : { record with own := record.own.put collectedName (.collected properties) } =
    added
  have lineage : (h.add added).lineage record.id = record.lineage := by
    subst hadded
    exact kept.lineage_add_self spec.next
  have own : (h.add added).own record.id =
      record.own.put collectedName (.collected properties) := by
    subst hadded
    exact kept.own_add_self spec.next
  have others : record.lineage.tail.map (h.add added).own = record.lineage.tail.map h.own := by
    refine List.map_congr_left fun c hc => own_add_of_ne fun same => ?_
    have below := known c hc
    rw [← same, ← hadded, spec.next] at below
    exact absurd below (Nat.lt_irrefl _)
  have held : (h.add added).properties record.id = properties :=
    properties_of_own (lineage.trans spec.lineage) (by rw [own, Table.get?_put_self])
  exact
    { first := by rw [lineage]; exact spec.lineage
      own := by rw [held, own, spec.own]
      properties := by rw [held, declarations, lineage, others, ← hproperties, spec.own] }

section Standing

/-- The hierarchy before any definition is in order. -/
theorem kept_initial : (initial : Hierarchy α).Kept := by
  constructor <;>
    simp [initial, builtIns, builtInRecord, above, objectId, rootId, Table.keys]

/-- A standing class with the next number, on bases that are there. -/
theorem Kept.addStanding (kept : h.Kept) {c : StandingClass} (next : c.id = ⟨h.classes.length⟩)
    (present : ∀ base ∈ c.bases, base.number < h.classes.length) : (h.addStanding c).Kept := by
  unfold Hierarchy.addStanding
  cases above : h.ancestry c.bases with
  | error fault => exact kept.add next rfl (by simp) List.nodup_nil
  | ok ancestors => exact kept.add next rfl (kept.known_of_ancestry present above) List.nodup_nil

/-- Standing classes are added in the order of their numbers, each on bases with lower numbers. -/
theorem Kept.addAllStanding (kept : h.Kept) {classes : List StandingClass}
    (inOrder : ∀ entry ∈ classes.zipIdx h.classes.length,
      entry.1.id = ⟨entry.2⟩ ∧ ∀ base ∈ entry.1.bases, base.number < entry.2) :
    (classes.foldl Hierarchy.addStanding h).Kept := by
  induction classes generalizing h with
  | nil => exact kept
  | cons c rest ih =>
    rw [List.zipIdx_cons] at inOrder
    obtain ⟨next, present⟩ := inOrder _ List.mem_cons_self
    refine ih (kept.addStanding next present) fun entry hentry => inOrder entry ?_
    have longer : (h.addStanding c).classes.length = h.classes.length + 1 := List.length_append
    rw [longer] at hentry
    exact List.mem_cons_of_mem _ hentry

/-- So is the hierarchy of all standing classes. -/
theorem kept_standing : (standing : Hierarchy α).Kept := by
  have inOrder : ∀ entry ∈ StandingClass.added.zipIdx 12,
      entry.1.id = ⟨entry.2⟩ ∧ ∀ base ∈ entry.1.bases, base.number < entry.2 := by
    decide
  exact kept_initial.addAllStanding inOrder

end Standing

/-- The hierarchies that come about: from the standing classes by definitions, each on classes that
are there, and by changes of attributes between them. What counts as a property may be another
thing at every definition. -/
inductive Reached : Hierarchy α → Prop where
  | standing : Reached standing
  | define {property? : α → Option Text} {h after : Hierarchy α} {name : String}
      {bases : List ClassId} {attributes : Table α} {id : ClassId} (before : Reached h)
      (present : ∀ base ∈ bases, h.Has base)
      (defined : (h.define property? name bases attributes).result = .ok (id, after)) :
      Reached after
  | setAttribute {h : Hierarchy α} (before : Reached h) (id : ClassId) (name : String)
      (content : α) : Reached (h.setAttribute id name content)
  | deleteAttribute {h after : Hierarchy α} {id : ClassId} {name : String} (before : Reached h)
      (deleted : h.deleteAttribute id name = .ok after) : Reached after

/-- Every hierarchy that is reached by definitions is in order. -/
theorem Reached.kept (reached : h.Reached) : h.Kept := by
  induction reached with
  | standing => exact kept_standing
  | define before present defined ih =>
    exact ih.define present defined
  | setAttribute before id name content ih =>
    exact ih.modify_own id fun own once => Table.nodup_keys_put once name _
  | @deleteAttribute h after id name before deleted ih =>
    unfold Hierarchy.deleteAttribute at deleted
    split at deleted
    · cases deleted
      exact ih.modify_own id fun own once => Table.nodup_keys_remove once name
    · cases deleted

end Hierarchy

end FilterAlgebra
