import FilterAlgebra.Proofs.Kinds

/-!
# The session before the first step

Before the first step the classes that are always there are filled, one after the other.
The proof follows the filling: a class is given what is of the kinds that are told
beforehand and nothing else changes (`fill_filled`), so in the end every class keeps what
is of its kinds. What is found in a class or above it is then a matter of looking into
tables, and the session before the first step turns out to be one in order:
`Session.initial_inOrder`.
-/

set_option autoImplicit false

namespace FilterAlgebra

namespace Table

variable {α β : Type}

/-- In two tables one after the other, the first one that has a key answers. -/
theorem get?_append (first second : Table α) (key : String) :
    get? (first ++ second) key = (get? first key).or (get? second key) := by
  simp only [get?, List.find?_append, Option.map_or]

/-- In a table with other values under the same keys, the other value is found. -/
theorem get?_map (table : Table α) (f : α → β) (key : String) :
    get? (table.map fun entry => (entry.1, f entry.2)) key = (get? table key).map f := by
  simp only [get?, List.find?_map, Option.map_map]
  rfl

end Table

namespace StandingClass

/-- All standing classes, in the order in which they are filled. -/
def all : List StandingClass :=
  added ++ [propertySet]

/-- Each standing class is one of them. -/
theorem mem_all (c : StandingClass) : c ∈ all := by
  cases c <;> simp [all, added]

end StandingClass

/-- Members of one sort are found under their names. -/
theorem Member.get?_named (sort : MemberSort) (owner : ClassId) (names : List String) (name : String) :
    (named sort owner names).get? name = if name ∈ names then some ⟨sort, owner, name⟩ else none := by
  induction names with
  | nil => rfl
  | cons first rest ih =>
    rw [named, List.map_cons, Table.get?_cons]
    by_cases same : first = name
    · simp [same]
    · rw [if_neg same, ← named, ih]
      simp [Ne.symm same]

/-- A class without what it keeps. -/
def ClassRecord.emptied {α : Type} (record : ClassRecord α) : ClassRecord α :=
  { record with own := [] }

namespace Hierarchy

variable {α : Type} (h : Hierarchy α) {id other : ClassId} {more : Table (Slot α)}

/-- A hierarchy in which a class keeps more. -/
def keepingMore (id : ClassId) (more : Table (Slot α)) : Hierarchy α :=
  h.modify id fun record => { record with own := record.own ++ more }

/-- The record of a class that keeps more. -/
theorem class?_keepingMore (id other : ClassId) (more : Table (Slot α)) :
    (h.keepingMore id more).class? other =
      if other = id then (h.class? id).map fun record => { record with own := record.own ++ more }
      else h.class? other := by
  have found : (h.keepingMore id more).class? other = (h.class? other).map fun record =>
      if record.id = id then { record with own := record.own ++ more } else record := by
    unfold keepingMore modify class?
    rw [List.find?_map]
    congr 2
    funext record
    simp only [Function.comp_apply]
    split <;> rfl
  have ofId : ∀ record, h.class? other = some record → record.id = other := by
    intro record isRecord
    simpa using List.find?_some isRecord
  rw [found]
  by_cases same : other = id
  · subst same
    simp only [if_true]
    cases isRecord : h.class? other with
    | none => rfl
    | some record => simp [ofId record isRecord]
  · simp only [same, if_false]
    cases isRecord : h.class? other with
    | none => rfl
    | some record => simp [ofId record isRecord, same]

/-- A class that keeps more is otherwise the same. -/
theorem emptied_keepingMore (id other : ClassId) (more : Table (Slot α)) :
    ((h.keepingMore id more).class? other).map ClassRecord.emptied = (h.class? other).map ClassRecord.emptied := by
  rw [class?_keepingMore]
  split
  · rename_i same
    rw [same, Option.map_map]
    rfl
  · rfl

/-- What a class keeps after it was given more. -/
theorem own_keepingMore_self (has : (h.class? id).isSome = true) : (h.keepingMore id more).own id = h.own id ++ more := by
  obtain ⟨record, isRecord⟩ := Option.isSome_iff_exists.mp has
  simp [own, class?_keepingMore, isRecord]

/-- All other classes keep what they kept. -/
theorem own_keepingMore_of_ne (different : other ≠ id) : (h.keepingMore id more).own other = h.own other := by
  simp [own, class?_keepingMore, different]

end Hierarchy

/-- The kinds of what a class keeps that is always there, where they are told beforehand. -/
def kindsOf? (id : ClassId) : Option (Table Kept) :=
  match Hierarchy.builtIn? id, StandingClass.ofId? id with
  | some t, _ => some (t.kinds id)
  | none, some c => if c.isNaming || c = .propertySet then none else some c.kinds
  | none, none => none

namespace Session

/-- Some of the classes that are always there were filled, and the others keep what they kept. -/
structure Filled (s : Session) (done : List ClassId) : Prop where
  tidy : s.Tidy
  same : ∀ id, (s.hierarchy.class? id).map ClassRecord.emptied =
    ((Hierarchy.standing (α := Ref)).class? id).map ClassRecord.emptied
  later : ∀ id, id ∉ done → s.hierarchy.own id = (Hierarchy.standing (α := Ref)).own id
  kept : ∀ id ∈ done, ∀ kinds, kindsOf? id = some kinds →
    ∃ table : Table Ref, s.hierarchy.own id = table.map (fun entry => (entry.1, .declared entry.2)) ∧
      s.Keep table kinds
  collected : ∀ id name properties, (name, Slot.collected properties) ∈ s.hierarchy.own id → id = Hierarchy.rootId

variable {s s' : Session} {done : List ClassId}

/-- Filled classes stay so while more objects are prepared. -/
theorem Filled.prepared (filled : s.Filled done) (grown : s.PreparedTo s') (tidy : s'.Tidy) : s'.Filled done where
  tidy := tidy
  same id := by rw [grown.hierarchy, filled.same]
  later id new := by rw [grown.hierarchy, filled.later id new]
  kept id member kinds told := by
    obtain ⟨table, own, keep⟩ := filled.kept id member kinds told
    exact ⟨table, by rw [grown.hierarchy, own], keep.prepared grown⟩
  collected := by
    rw [grown.hierarchy]
    exact filled.collected

end Session

namespace SessionM

variable {s : Session} {done : List ClassId} {id : ClassId}

/-- A class that is given what is of its kinds is filled. -/
theorem fill_filled (filled : s.Filled done) (new : id ∉ done)
    (has : ((Hierarchy.standing (α := Ref)).class? id).isSome = true)
    (empty : (kindsOf? id).isSome = true → (Hierarchy.standing (α := Ref)).own id = [])
    {table : Table Ref} (there : ∀ entry ∈ table, entry.2 < s.cells.size)
    (keep : ∀ kinds, kindsOf? id = some kinds → s.Keep table kinds) :
    ∃ s', (fill id table).runIn s = (.ok (), s') ∧ s'.Filled (id :: done) := by
  let declared : Table (Slot Ref) := table.map fun entry => (entry.1, .declared entry.2)
  let s' : Session := { s with hierarchy := s.hierarchy.keepingMore id declared }
  have has' : (s.hierarchy.class? id).isSome = true := by
    rw [← Option.isSome_map (f := ClassRecord.emptied), filled.same, Option.isSome_map, has]
  have ownSelf : s'.hierarchy.own id = s.hierarchy.own id ++ declared := s.hierarchy.own_keepingMore_self has'
  have ownOther : ∀ other, other ≠ id → s'.hierarchy.own other = s.hierarchy.own other := fun other different =>
    s.hierarchy.own_keepingMore_of_ne different
  have known : ∀ other name slot, (name, slot) ∈ s'.hierarchy.own other →
      (name, slot) ∈ s.hierarchy.own other ∨ other = id ∧ (name, slot) ∈ declared := by
    intro other name slot member
    by_cases same : other = id
    · subst same
      rw [ownSelf] at member
      exact (List.mem_append.mp member).imp_right fun member => ⟨rfl, member⟩
    · rw [ownOther other same] at member
      exact .inl member
  have tidy : s'.Tidy := { filled.tidy with
    slots := fun other name q member => by
      obtain old | ⟨-, new⟩ := known other name _ member
      · exact filled.tidy.slots other name q old
      · obtain ⟨entry, isEntry, same⟩ := List.mem_map.mp new
        obtain ⟨-, rfl⟩ : entry.1 = name ∧ entry.2 = q := by simpa using same
        exact there entry isEntry }
  have stays : s.Keep table = s'.Keep table := rfl
  refine ⟨s', rfl, tidy, fun other => ?_, fun other notDone => ?_, fun other member kinds told => ?_,
    fun other name properties member => ?_⟩
  · exact (s.hierarchy.emptied_keepingMore id other declared).trans (filled.same other)
  · have different : other ≠ id := fun same => notDone (by simp [same])
    rw [ownOther other different]
    exact filled.later other fun member => notDone (List.mem_cons_of_mem id member)
  · by_cases same : other = id
    · subst same
      refine ⟨table, ?_, stays ▸ keep kinds told⟩
      rw [ownSelf, filled.later other new, empty (by rw [told]; rfl), List.nil_append]
    · obtain ⟨table', own, keep'⟩ := filled.kept other ((List.mem_cons.mp member).resolve_left same) kinds told
      exact ⟨table', by rw [ownOther other same, own], keep'⟩
  · obtain old | ⟨-, new⟩ := known other name _ member
    · exact filled.collected other name properties old
    · obtain ⟨entry, -, same⟩ := List.mem_map.mp new
      simp at same

/-- A built-in class is filled. -/
theorem fillBuiltIn_filled (filled : s.Filled done) (new : id ∉ done) {t : SemanticType}
    (has : ((Hierarchy.standing (α := Ref)).class? id).isSome = true)
    (empty : (Hierarchy.standing (α := Ref)).own id = []) (isBuiltIn : Hierarchy.builtIn? id = some t) :
    ∃ s', (fillBuiltIn id t).runIn s = (.ok (), s') ∧ s'.Filled (id :: done) := by
  have inParts : fillBuiltIn id t = (do
      let members ← newEntries (fun m => newObject (.member m) []) (Member.ofBuiltIn id t)
      return members ++ (← builtInEntries t)) >>= fill id := by
    simp [fillBuiltIn]
  obtain ⟨table, s₁, made, grown, tidy, keep⟩ := fillingBuiltIn_keep filled.tidy id t
  have told : kindsOf? id = some (t.kinds id) := by
    unfold kindsOf?
    rw [isBuiltIn]
  obtain ⟨s', ends, filled'⟩ := fill_filled (filled.prepared grown tidy) new has (fun _ => empty) (keep.there tidy)
    fun kinds same => by
      rw [told] at same
      exact Option.some.inj same ▸ keep
  exact ⟨s', by rw [inParts, runIn_bind_of_ok made, ends], filled'⟩

/-- A standing class is filled. -/
theorem fillStanding_filled {c : StandingClass} (filled : s.Filled done) (new : c.id ∉ done)
    (has : ((Hierarchy.standing (α := Ref)).class? c.id).isSome = true)
    (empty : (kindsOf? c.id).isSome = true → (Hierarchy.standing (α := Ref)).own c.id = [])
    (told : kindsOf? c.id = if c.isNaming || c = .propertySet then none else some c.kinds) :
    ∃ s', (fillStanding c).runIn s = (.ok (), s') ∧ s'.Filled (c.id :: done) := by
  have inParts : fillStanding c = (do
      let functions ← c.functions.mapM fun f => do return (f.action.name, ← newObject (.function f) [])
      let members ← newEntries (fun m => newObject (.member m) []) c.members
      return functions ++ members ++ (← standingEntries c)) >>= fill c.id := by
    simp [fillStanding]
  obtain ⟨table, s₁, made, grown, tidy, kinds, keep, known⟩ := filling_keep (c := c) filled.tidy
  obtain ⟨s', ends, filled'⟩ := fill_filled (filled.prepared grown tidy) new has empty (keep.there tidy)
    fun kinds' same => by
      have unnamed : c.isNaming = false := by
        cases naming : c.isNaming with
        | false => rfl
        | true => simp [told, naming] at same
      rw [told] at same
      split at same
      · cases same
      · rw [← Option.some.inj same, ← known unnamed]
        exact keep
  exact ⟨s', by rw [inParts, runIn_bind_of_ok made, ends], filled'⟩

/-- Classes are filled one after the other. -/
theorem forM_filled {α : Type} {f : α → SessionM Unit} {idOf : α → ClassId} {as : List α}
    (step : ∀ a ∈ as, ∀ (s : Session) (done : List ClassId), s.Filled done → idOf a ∉ done →
      ∃ s', (f a).runIn s = (.ok (), s') ∧ s'.Filled (idOf a :: done))
    (distinct : (as.map idOf).Nodup) (new : ∀ a ∈ as, idOf a ∉ done) (filled : s.Filled done) :
    ∃ s', (as.forM f).runIn s = (.ok (), s') ∧ s'.Filled ((as.map idOf).reverse ++ done) := by
  induction as generalizing s done with
  | nil => exact ⟨s, rfl, filled⟩
  | cons a as ih =>
    obtain ⟨first, others⟩ := List.nodup_cons.mp distinct
    obtain ⟨s₁, ends, filled₁⟩ := step a (by simp) s done filled (new a (by simp))
    have new₁ : ∀ b ∈ as, idOf b ∉ idOf a :: done := by
      intro b member isDone
      obtain same | isDone := List.mem_cons.mp isDone
      · exact first (List.mem_map.mpr ⟨b, member, same⟩)
      · exact new b (List.mem_cons_of_mem a member) isDone
    obtain ⟨s₂, ends₂, filled₂⟩ := ih (fun b member => step b (List.mem_cons_of_mem a member)) others new₁ filled₁
    refine ⟨s₂, ?_, ?_⟩
    · exact (runIn_bind_of_ok ends fun _ => as.forM f).trans ends₂
    · simpa using filled₂

/-- A computation that comes to a result leaves the session in which it does. -/
theorem left_of_runIn {p : SessionM Unit} {s s' : Session} (ends : p.runIn s = (.ok (), s')) : p.left s = s' :=
  congrArg Prod.snd ends

/-- The classes that are filled, the last one first. -/
def filledClasses : List ClassId :=
  (StandingClass.all.map StandingClass.id).reverse ++
    ((Hierarchy.builtIns.map fun entry => entry.1).reverse ++ [Hierarchy.objectId])

/-- What is known of the classes before any of them is filled. -/
structure Unfilled (h : Hierarchy Ref) : Prop where
  builtIns : ∀ entry ∈ Hierarchy.builtIns, (h.class? entry.1).isSome = true ∧ (h.own entry.1).isEmpty = true ∧
    Hierarchy.builtIn? entry.1 = some entry.2
  standing : ∀ c ∈ StandingClass.all, (h.class? c.id).isSome = true ∧
    (c = .propertySet ∨ (h.own c.id).isEmpty = true) ∧
    Hierarchy.builtIn? c.id = none ∧ StandingClass.ofId? c.id = some c
  declaring : ∀ record ∈ h.classes, record.own.isEmpty = true ∨ record.id = Hierarchy.rootId
  names : ∀ c ∈ StandingClass.all, h.name c.id = c.name
  builtInNames : ∀ t ∈ SemanticType.fixed, h.name (StandingClass.builtIn t) = t.fixedName
  distinct : filledClasses.Nodup

/-- The classes that are always there, before any of them is filled. -/
theorem unfilled_standing : Unfilled Hierarchy.standing where
  builtIns := by decide +kernel
  standing := by decide +kernel
  declaring := by decide +kernel
  names := by decide +kernel
  builtInNames := by decide +kernel
  distinct := by decide +kernel

/-- Before any class is filled, only the root of property sets keeps anything: that it has no properties. -/
theorem own_standing {id : ClassId} {name : String} {slot : Slot Ref}
    (h : (name, slot) ∈ (Hierarchy.standing (α := Ref)).own id) : id = Hierarchy.rootId ∧ slot = .collected [] := by
  have root : (Hierarchy.standing (α := Ref)).own Hierarchy.rootId = [(Hierarchy.collectedName, .collected [])] := rfl
  have isRoot : id = Hierarchy.rootId := by
    cases found : (Hierarchy.standing (α := Ref)).class? id with
    | none => simp [Hierarchy.own, found] at h
    | some record =>
      obtain isEmpty | isRoot := unfilled_standing.declaring record (List.mem_of_find?_eq_some found)
      · simp [Hierarchy.own, found, List.isEmpty_iff.mp isEmpty] at h
      · rw [← isRoot]
        exact (by simpa using List.find?_some found : record.id = id).symm
  rw [isRoot, root] at h
  exact ⟨isRoot, (Prod.mk.inj (List.mem_singleton.mp h)).2⟩

/-- Before any class is filled there are no objects. -/
theorem empty_filled : ({} : Session).Filled [] where
  tidy :=
    { cells := by simp
      kept := by simp
      slots := fun id name q member => by simpa using (own_standing member).2
      shared := by simp [Session.shared?]
      known := by simp [Session.shared?]
      named := by simp [Session.shared?]
      classes := by simp [Session.shared?]
      styles := by simp [Session.shared?] }
  same _ := rfl
  later _ _ := rfl
  kept := by simp
  collected id name properties member := (own_standing member).1

/-- Standing classes keep what is of their kinds, but for those with named values. -/
theorem kindsOf?_id (c : StandingClass) :
    kindsOf? c.id = if c.isNaming || c = .propertySet then none else some c.kinds := by
  obtain ⟨-, -, noBuiltIn, number⟩ := unfilled_standing.standing c c.mem_all
  unfold kindsOf?
  rw [noBuiltIn, number]

/-- A built-in class is filled after some of the others. -/
theorem fillBuiltIn_filled_of_mem {entry : ClassId × SemanticType} (member : entry ∈ Hierarchy.builtIns)
    (filled : s.Filled done) (new : entry.1 ∉ done) :
    ∃ s', (fillBuiltIn entry.1 entry.2).runIn s = (.ok (), s') ∧ s'.Filled (entry.1 :: done) := by
  obtain ⟨has, empty, isBuiltIn⟩ := unfilled_standing.builtIns entry member
  exact fillBuiltIn_filled filled new has (List.isEmpty_iff.mp empty) isBuiltIn

/-- A standing class is filled after some of the others. -/
theorem fillStanding_filled_of_new {c : StandingClass} (filled : s.Filled done) (new : c.id ∉ done) :
    ∃ s', (fillStanding c).runIn s = (.ok (), s') ∧ s'.Filled (c.id :: done) := by
  obtain ⟨has, empty, -⟩ := unfilled_standing.standing c c.mem_all
  refine fillStanding_filled filled new has (fun told => ?_) (kindsOf?_id c)
  obtain rfl | empty := empty
  · rw [kindsOf?_id] at told
    simp at told
  · exact List.isEmpty_iff.mp empty

/-- All classes that are always there are filled. -/
theorem fillAll_filled :
    ∃ s, fillAll.runIn {} = (.ok (), s) ∧ s.Filled filledClasses ∧
      (s.shared? (.collectedOf Hierarchy.rootId)).isSome = true := by
  have first : ∃ s', (fillBuiltIn Hierarchy.objectId .object).runIn {} = (.ok (), s') ∧
      s'.Filled [Hierarchy.objectId] := fillBuiltIn_filled empty_filled (by simp) (by decide +kernel) rfl rfl
  obtain ⟨s₁, ends₁, filled₁⟩ := first
  obtain ⟨distinctStanding, distinctOthers, newStanding⟩ := List.nodup_append.mp unfilled_standing.distinct
  obtain ⟨distinctBuiltIns, -, newBuiltIns⟩ := List.nodup_append.mp distinctOthers
  have isNewBuiltIn : ∀ entry ∈ Hierarchy.builtIns, entry.1 ∉ [Hierarchy.objectId] := fun entry member isObject =>
    newBuiltIns entry.1 (List.mem_reverse.mpr (List.mem_map_of_mem member)) entry.1 isObject rfl
  have isNewStanding : ∀ c ∈ StandingClass.all, c.id ∉
      (Hierarchy.builtIns.map fun entry => entry.1).reverse ++ [Hierarchy.objectId] := fun c member isOther =>
    newStanding c.id (List.mem_reverse.mpr (List.mem_map_of_mem member)) c.id isOther rfl
  obtain ⟨s₂, ends₂, filled₂⟩ := forM_filled
    (fun entry member _ _ => fillBuiltIn_filled_of_mem member) (List.nodup_reverse.mp distinctBuiltIns) isNewBuiltIn filled₁
  obtain ⟨s₃, ends₃, filled₃⟩ := forM_filled
    (fun _ _ _ _ => fillStanding_filled_of_new) (List.nodup_reverse.mp distinctStanding) isNewStanding filled₂
  obtain ⟨r₄, s₄, ends₄, grown₄, tidy₄, isCollected⟩ :=
    Prepared.collectedObject filled₃.tidy Hierarchy.rootId [] (by simp)
  obtain ⟨r₅, s₅, ends₅, grown₅, tidy₅, -⟩ := Prepared.defaultStyle tidy₄
  refine ⟨s₅, ?_, (filled₃.prepared grown₄ tidy₄).prepared grown₅ tidy₅, ?_⟩
  · have ends₃' : ((StandingClass.added ++ [StandingClass.propertySet]).forM fillStanding).runIn s₂ = (.ok (), s₃) :=
      ends₃
    unfold fillAll
    rw [runIn_bind_of_ok ends₁, runIn_bind_of_ok ends₂, runIn_bind_of_ok ends₃', runIn_bind_of_ok ends₄,
      runIn_bind_of_ok ends₅]
    rfl
  · rw [grown₅.shared _ _ isCollected]
    rfl

end SessionM

namespace Session

/-- The kind of what the first class in the order of lookup that keeps anything under a name keeps. -/
def kindAt? (id : ClassId) (name : String) : Option Kept :=
  ((Hierarchy.standing (α := Ref)).lineage id).findSome? fun c => ((kindsOf? c).getD []).get? name

/-- The classes in the order of lookup were filled with what can be told beforehand. -/
def IsTold (done : List ClassId) (id : ClassId) : Prop :=
  ∀ c ∈ (Hierarchy.standing (α := Ref)).lineage id, c ∈ done ∧ (kindsOf? c).isSome = true

variable {s : Session} {done : List ClassId} {id : ClassId} {name : String}

/-- The order of lookup is what it was. -/
theorem Filled.lineage_eq (filled : s.Filled done) (id : ClassId) :
    s.hierarchy.lineage id = (Hierarchy.standing (α := Ref)).lineage id := by
  have same := congrArg (Option.map ClassRecord.lineage) (filled.same id)
  simp only [Option.map_map] at same
  exact congrArg (·.getD []) same

/-- The names of the classes are what they were. -/
theorem Filled.name_eq (filled : s.Filled done) (id : ClassId) :
    s.hierarchy.name id = (Hierarchy.standing (α := Ref)).name id := by
  have same := congrArg (Option.map ClassRecord.name) (filled.same id)
  simp only [Option.map_map] at same
  exact congrArg (·.getD "") same

/-- What is found under a name in a class or above it is of the kind that is told beforehand. -/
theorem Filled.slot?_rel (filled : s.Filled done) (told : IsTold done id) (name : String) :
    Option.Rel (fun found kind => ∃ r, found.2 = .declared r ∧ Kept.Holds s r kind) (s.slot? id name)
      (kindAt? id name) := by
  unfold slot? kindAt?
  rw [filled.lineage_eq]
  unfold IsTold at told
  generalize (Hierarchy.standing (α := Ref)).lineage id = lineage at told
  induction lineage with
  | nil => exact .none
  | cons c rest ih =>
    obtain ⟨isDone, isTold⟩ := told c (by simp)
    obtain ⟨kinds, isKinds⟩ := Option.isSome_iff_exists.mp isTold
    obtain ⟨table, own, keep⟩ := filled.kept c isDone kinds isKinds
    have found := keep.get? name
    rw [List.findSome?_cons, List.findSome?_cons, own, isKinds, Table.get?_map, Option.getD_some]
    cases isEntry : table.get? name with
    | none =>
      rw [isEntry] at found
      cases found' : kinds.get? name with
      | none => exact ih fun c' member => told c' (List.mem_cons_of_mem c member)
      | some kind => simp [found'] at found
    | some r =>
      rw [isEntry] at found
      cases found' : kinds.get? name with
      | none => simp [found'] at found
      | some kind =>
        rw [found'] at found
        cases found with
        | some holds => exact .some ⟨r, rfl, holds⟩

/-- What is told beforehand is found. -/
theorem Filled.slot?_of_some (filled : s.Filled done) (told : IsTold done id) {kind : Kept}
    (isKind : kindAt? id name = some kind) :
    ∃ owner r, s.slot? id name = some (owner, .declared r) ∧ kind.Holds s r := by
  have found := filled.slot?_rel told name
  rw [isKind] at found
  cases isSlot : s.slot? id name with
  | none => simp [isSlot] at found
  | some slot =>
    rw [isSlot] at found
    cases found with
    | some holds =>
      obtain ⟨owner, slot⟩ := slot
      obtain ⟨r, rfl, holds⟩ := holds
      exact ⟨owner, r, rfl, holds⟩

/-- Nothing is found where it is told beforehand that nothing is. -/
theorem Filled.slot?_of_none (filled : s.Filled done) (told : IsTold done id) (noKind : kindAt? id name = none) :
    s.slot? id name = none := by
  have found := filled.slot?_rel told name
  rw [noKind] at found
  cases isSlot : s.slot? id name with
  | none => rfl
  | some slot => simp [isSlot] at found

/-- What the first class in the order of lookup keeps is found. -/
theorem kindAt?_of_first {c : ClassId} {rest : List ClassId} {kinds : Table Kept} {kind : Kept}
    (lineage : (Hierarchy.standing (α := Ref)).lineage id = c :: rest) (told : kindsOf? c = some kinds)
    (found : kinds.get? name = some kind) : kindAt? id name = some kind := by
  rw [kindAt?, lineage, List.findSome?_cons, told, Option.getD_some, found]

section Library

/-- The classes that are relied on. -/
def relied : List ClassId :=
  (StandingClass.added.filter fun c => !c.isNaming).map (·.id) ++ Hierarchy.builtIns.map (·.1)

/-- What is told beforehand of the classes that are relied on. -/
structure Told : Prop where
  lineages : ∀ id ∈ relied, ∀ c ∈ (Hierarchy.standing (α := Ref)).lineage id,
    c ∈ SessionM.filledClasses ∧ (kindsOf? c).isSome = true
  asked : ∀ c ∈ StandingClass.asked, c.id ∈ relied
  typed : ∀ c ∈ StandingClass.all, c.type?.isSome = true → c.id ∈ relied
  hashed : ∀ c ∈ StandingClass.classesOfClasses, c.id ∈ relied
  single : ∀ id ∈ [StandingClass.property.id, StandingClass.validator.id, StandingClass.builtIn .str], id ∈ relied
  functions : ∀ c ∈ StandingClass.asked, ∀ owner ∈ c.lineage, ∀ action ∈ owner.actions,
    kindAt? c.id action.name = (c.function? action).map Kept.function
  tests : ∀ c, kindAt? (StandingClass.ofCapability c).id Attribute.validator = some (.test c.tested)
  types : ∀ c ∈ StandingClass.all, ∀ t, c.type? = some t →
    kindAt? c.id Attribute.semanticType = some (.type (StandingClass.builtIn t))
  untyped : kindAt? StandingClass.property.id Attribute.semanticType = none
  testing : kindAt? StandingClass.validator.id "validate_python" =
    some (.member ⟨.method, StandingClass.validator.id, "validate_python"⟩)
  replacing : kindAt? (StandingClass.builtIn .str) "replace" =
    some (.member ⟨.method, StandingClass.builtIn .str, "replace"⟩)
  hashing : ∀ c ∈ StandingClass.classesOfClasses, kindAt? c.id (Action.name .hash) =
    some (.member ⟨.operator, Hierarchy.objectId, Action.name .hash⟩)

/-- What is told beforehand is seen by looking into the tables of kinds. -/
theorem told : Told where
  lineages := by decide +kernel
  asked := by decide +kernel
  typed := by decide +kernel
  hashed := by decide +kernel
  single := by decide +kernel
  functions := by decide +kernel
  tests c := by
    have ofText : kindAt? StandingClass.textCapability.id Attribute.validator = some (.test (.text {})) := by
      decide +kernel
    have ofShortText : kindAt? StandingClass.shortTextCapability.id Attribute.validator =
        some (.test (.shortText {})) := by decide +kernel
    cases c with
    | text => exact ofText
    | shortText => exact ofShortText
    | _ => decide +kernel
  types := by decide +kernel
  untyped := by decide +kernel
  testing := by decide +kernel
  replacing := by
    have isMethod : "replace" ∈ Member.BuiltIn.methods .str := by
      rw [Member.BuiltIn.methods, Member.words, ← String.length_toList]
      simp only [String.toList_append, String.reduceToList]
      decide +kernel
    have noOperator : "replace" ∉ Member.BuiltIn.operators .str := by decide +kernel
    have lineage : (Hierarchy.standing (α := Ref)).lineage (StandingClass.builtIn .str) =
        [StandingClass.builtIn .str, Hierarchy.objectId] := by decide +kernel
    have isBuiltIn : Hierarchy.builtIn? (StandingClass.builtIn .str) = some .str := rfl
    have isTold : kindsOf? (StandingClass.builtIn .str) =
        some (SemanticType.kinds (StandingClass.builtIn .str) .str) := by rw [kindsOf?, isBuiltIn]
    refine kindAt?_of_first lineage isTold ?_
    rw [SemanticType.kinds, Table.get?_append, Table.get?_map, Member.ofBuiltIn, Table.get?_append,
      Table.get?_append, Table.get?_append, Member.get?_named, Member.get?_named, if_neg noOperator, if_pos isMethod]
    simp only [Option.none_or, Option.some_or, Option.map_some]
  hashing := by decide +kernel

/-- A class that is relied on keeps what is told beforehand. -/
theorem Filled.keeps (filled : s.Filled SessionM.filledClasses) (isRelied : id ∈ relied) {kind : Kept}
    (found : kindAt? id name = some kind) :
    ∃ owner r, s.slot? id name = some (owner, .declared r) ∧ kind.Holds s r :=
  filled.slot?_of_some (told.lineages id isRelied) found

/-- What is a member or a function is found as one. -/
theorem Filled.keeps_content (filled : s.Filled SessionM.filledClasses) (isRelied : id ∈ relied) {kind : Kept}
    {content : Content} (found : kindAt? id name = some kind) (plain : ∀ r, kind.Holds s r → s.IsPlain r content) :
    s.Keeps id name content := by
  obtain ⟨owner, r, slot, holds⟩ := filled.keeps isRelied found
  exact ⟨owner, r, slot, (plain r holds).content_eq⟩

/-- The functions that objects are asked for are found. -/
theorem Told.function (told : Told) {c : StandingClass} (asked : c ∈ StandingClass.asked) {action : Action}
    {f : Function} (found : c.function? action = some f) : kindAt? c.id action.name = some (.function f) := by
  obtain ⟨owner, isOwner, rfl⟩ := Option.map_eq_some_iff.mp found
  have defines : action ∈ owner.actions := by simpa using List.find?_some isOwner
  rw [told.functions c asked owner (List.mem_of_find?_eq_some isOwner) action defines, found, Option.map_some]

/-- A session in which all classes are filled is in order. -/
theorem Filled.inOrder (filled : s.Filled SessionM.filledClasses)
    (collected : (s.shared? (.collectedOf Hierarchy.rootId)).isSome = true) : s.InOrder where
  cells := filled.tidy.cells
  slots := filled.tidy.slots
  shared := filled.tidy.shared
  collected id name properties member := by
    rw [filled.collected id name properties member]
    exact collected
  names c := by rw [filled.name_eq, SessionM.unfilled_standing.names c c.mem_all]
  builtInNames t member := by rw [filled.name_eq, SessionM.unfilled_standing.builtInNames t member]
  lineages id _ := filled.lineage_eq id
  known := filled.tidy.known
  classes id r known := ⟨(filled.tidy.classes id r known).content_eq, (filled.tidy.classes id r known).below?_eq⟩
  styles := filled.tidy.styles
  functions c asked action f found :=
    filled.keeps_content (told.asked c asked) (told.function asked found) fun _ holds => holds
  tests c := filled.keeps (told.asked _ (StandingClass.ofCapability_mem_asked c)) (told.tests c)
  types c t type := by
    have isRelied : c.id ∈ relied := told.typed c c.mem_all (by rw [type]; rfl)
    obtain ⟨owner, r, slot, known⟩ := filled.keeps isRelied (told.types c c.mem_all t type)
    have plain := filled.tidy.classes _ r known
    exact ⟨owner, r, slot, plain.lt, known, plain.content_eq, plain.below?_eq⟩
  untyped := filled.slot?_of_none (told.lineages _ (told.single _ (by simp))) told.untyped
  testing := filled.keeps_content (told.single _ (by simp)) told.testing fun _ holds => holds
  replacing := filled.keeps_content (told.single _ (by simp)) told.replacing fun _ holds => holds
  hashing c member := filled.keeps_content (told.hashed c member) (told.hashing c member) fun _ holds => holds

/-- In the session before the first step all that the building of filters relies on is what the library
made it. -/
theorem initial_inOrder : initial.InOrder := by
  obtain ⟨s, ends, filled, collected⟩ := SessionM.fillAll_filled
  have isInitial : initial = s := SessionM.left_of_runIn ends
  rw [isInitial]
  exact filled.inOrder collected

end Library

end Session

end FilterAlgebra
