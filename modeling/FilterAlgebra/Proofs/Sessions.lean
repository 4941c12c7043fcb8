import FilterAlgebra.Proofs.Snapshots
import FilterAlgebra.Session.Prelude

/-!
# Sessions in order

Users can change almost everything in a session: rename the classes of the library,
replace what they keep, change objects that others hold. `Session.InOrder` says that
none of this was done to what the building of filters relies on. The classes that are
always there have their names and orders of lookup, what they keep for their objects is
what the library gave them, and objects that there is only one of are what they are
known as. Everything that users add besides is left open.

A session in order stays so when an object is made (`InOrder.withObject`), when it
becomes the only one of its kind (`InOrder.withShared`) and when something is recorded.
-/

set_option autoImplicit false

namespace FilterAlgebra

namespace Shared

/-- The content of an object that is known as the only one of its kind, where the kind tells it and
nothing can be added to the object. -/
def content? : Shared → Option Content
  | none => some (.atom .none)
  | bool b => some (.atom (.bool b))
  | smallInt n => some (.atom (.int n))
  | shortText s | word s | nameOf _ s => some (.atom (.str s))
  | shortBytes content => some (.atom (.bytes content))
  | emptyTuple => some (.tuple [])
  | emptyCollection => some (.collection true [])
  | color _ | tag _ | type _ | defaultStyle | collectedOf _ | basesOf .. | lineageOf .. => Option.none

end Shared

namespace Value

/-- Whether a value is one of those that refer to no others and of which a test hands on the plain form. -/
def isSimple : Value → Bool
  | none | bool _ | int _ | float _ | decimal _ | text (.plain _) | bytes _ => true
  | _ => false

/-- The only object of a simple value is known for having it as its content. -/
theorem content?_of_isSimple {v : Value} (h : v.isSimple = true) {key : Shared}
    (known : Shared.ofValue? v = some key) : key.content? = some (.atom v) := by
  cases v with
  | none | bool b =>
    obtain rfl := Option.some.inj known
    rfl
  | int n =>
    by_cases small : Shared.leastSmallInt ≤ n ∧ n ≤ Shared.greatestSmallInt
    · simp only [Shared.ofValue?, small, and_self, if_true, Option.some.injEq] at known
      rw [← known]
      rfl
    · simp [Shared.ofValue?, small] at known
  | text t =>
    cases t with
    | plain s =>
      by_cases short : Shared.isShort s
      · simp only [Shared.ofValue?, short, if_true, Option.some.injEq] at known
        rw [← known]
        rfl
      · simp [Shared.ofValue?, short] at known
    | _ => simp [isSimple] at h
  | bytes content =>
    by_cases short : content.length ≤ 1
    · simp only [Shared.ofValue?, short, if_true, Option.some.injEq] at known
      rw [← known]
      rfl
    · simp [Shared.ofValue?, short] at known
  | _ => simp [isSimple, Shared.ofValue?] at h known

end Value

/-- The capability of the catalogue that says what a capability accepts: of two that accept the same
it is one. -/
def StandardCapability.tested : StandardCapability → StandardCapability
  | hexInteger => integer
  | text _ => text {}
  | shortText _ => shortText {}
  | c => c

/-- A capability accepts what the one that says so accepts. -/
theorem StandardCapability.validate_tested (c : StandardCapability) : c.tested.validate = c.validate := by
  cases c <;> rfl

/-- The object for a type of a class is that of the class. -/
theorem SessionM.typeObject_eq {type : SemanticType} (isClass : type.isClass = true) :
    SessionM.typeObject type = SessionM.classObject (StandingClass.builtIn type) := by
  cases type with
  | absent | other h => simp [SemanticType.isClass] at isClass
  | _ => rfl

namespace StandingClass

/-- The standing classes in the order of lookup of a standing class. -/
def lineage (c : StandingClass) : List StandingClass :=
  ((Hierarchy.standing (α := Ref)).lineage c.id).filterMap ofId?

/-- The function that an object of a standing class is asked for: that of the first class in the order
of lookup that defines one. -/
def function? (c : StandingClass) (action : Action) : Option Function :=
  (c.lineage.find? (·.actions.contains action)).map fun owner => ⟨owner, action⟩

/-- The classes whose objects are asked for functions while a filter is built. -/
def asked : List StandingClass :=
  [integerCapability, textCapability, doubleCapability, hexIntegerCapability, evenIntegerCapability,
   shortTextCapability, booleanCapability, decimalCapability, pairCapability, style, bundle, adapterSet,
   rawAdapter, identityAdapter]

/-- The classes that classes are objects of. -/
def classesOfClasses : List StandingClass :=
  [classOfClasses, abstractClasses, modelClasses, enumerationClasses]

/-- The classes of a capability are asked for functions. -/
theorem ofCapability_mem_asked (c : StandardCapability) : ofCapability c ∈ asked := by
  cases c <;> simp [ofCapability, asked]

end StandingClass

namespace Session

section Kinds

/-- An object consists of nothing but a content. -/
def IsPlain (s : Session) (r : Ref) (content : Content) : Prop :=
  s.cells[r]? = some { content }

/-- An object is a class: the only one that is known as it. -/
structure IsClass (s : Session) (r : Ref) (id : ClassId) : Prop where
  lt : r < s.cells.size
  known : s.shared? (.type id) = some r
  content_eq : s.content r = .type id
  below?_eq : s.below? r = none

/-- An object of a standing class has these attributes. -/
def IsObject (s : Session) (r : Ref) (c : StandingClass) (attributes : Table Ref) : Prop :=
  s.cells[r]? = some { content := .object c.id, attributes }

/-- An object is a style: one with the two options. -/
def IsStyle (s : Session) (r : Ref) (style : QuoteStyle) : Prop :=
  ∃ mark doubled, s.IsObject r .style [(QuoteStyle.markOption, mark), (QuoteStyle.doubledOption, doubled)] ∧
    s.IsPlain mark (.atom (.str style.mark.char.toString)) ∧ s.IsPlain doubled (.atom (.bool style.doubled))

variable {s s' : Session} {r : Ref}

/-- A plain object is there. -/
theorem IsPlain.lt {content : Content} (h : s.IsPlain r content) : r < s.cells.size :=
  (Array.getElem?_eq_some_iff.mp h).1

/-- A plain object has its content. -/
theorem IsPlain.content_eq {content : Content} (h : s.IsPlain r content) : s.content r = content := by
  unfold IsPlain at h
  simp only [Session.content, h]

/-- A plain object is of the class of its content. -/
theorem IsPlain.below?_eq {content : Content} (h : s.IsPlain r content) : s.below? r = none := by
  unfold IsPlain at h
  simp only [below?, h, Option.bind_some]

/-- A plain object has no attributes of its own. -/
theorem IsPlain.attribute?_eq {content : Content} (h : s.IsPlain r content) (name : String) :
    s.attribute? r name = none := by
  unfold IsPlain at h
  simp [attribute?, attributes, h]

/-- An object of the class of its content has the value of its content. -/
theorem value_eq_contentValue (kind : s.below? r = none) :
    s.value r = Snapshot.contentValue s (Snapshot.readWithin s (2 * s.cells.size + 1)) [r] r := by
  have depth : s.depth = 2 * s.cells.size + 1 + 1 := rfl
  rw [value, depth, Snapshot.readWithin]
  simp only [List.contains_nil, Bool.false_eq_true, if_false, Snapshot.assemble, kind]

/-- A plain object is one in a session that only grew. -/
theorem IsPlain.extended {content : Content} (h : s.IsPlain r content) (extended : s.ExtendedBy s') :
    s'.IsPlain r content :=
  (extended.cells r h.lt).trans h

/-- A class is one in a session that only grew. -/
theorem IsClass.extended {id : ClassId} (h : s.IsClass r id) (extended : s.ExtendedBy s') :
    s'.IsClass r id where
  lt := h.lt.trans_le extended.size
  known := extended.shared _ _ h.known
  content_eq := by rw [extended.content_eq h.lt, h.content_eq]
  below?_eq := by rw [extended.below?_eq h.lt, h.below?_eq]

/-- A class as a type. -/
theorem IsClass.typeOf {id : ClassId} (h : s.IsClass r id) : s.typeOf r = s.classType id := by
  simp only [Session.typeOf, Snapshot.typeOf, h.content_eq]

variable {c : StandingClass} {attributes : Table Ref}

/-- An object of a standing class is there. -/
theorem IsObject.lt (h : s.IsObject r c attributes) : r < s.cells.size :=
  (Array.getElem?_eq_some_iff.mp h).1

/-- An object of a standing class consists of attributes. -/
theorem IsObject.content_eq (h : s.IsObject r c attributes) : s.content r = .object c.id := by
  unfold IsObject at h
  simp only [content, h]

/-- An object of a standing class is of no class below that. -/
theorem IsObject.below?_eq (h : s.IsObject r c attributes) : s.below? r = none := by
  unfold IsObject at h
  simp only [below?, h, Option.bind_some]

/-- An object of a standing class is of that very class. -/
theorem IsObject.classOf_eq (h : s.IsObject r c attributes) : s.classOf r = c.id := by
  rw [classOf, h.below?_eq, h.content_eq]
  rfl

/-- An object of a standing class has the attributes that it has. -/
theorem IsObject.attribute?_eq (h : s.IsObject r c attributes) (name : String) :
    s.attribute? r name = Table.get? attributes name := by
  unfold IsObject at h
  simp [attribute?, Session.attributes, h]

/-- An object of a standing class is one in a session that only grew. -/
theorem IsObject.extended (h : s.IsObject r c attributes) (extended : s.ExtendedBy s') :
    s'.IsObject r c attributes :=
  (extended.cells r h.lt).trans h

/-- A style is one in a session that only grew. -/
theorem IsStyle.extended {style : QuoteStyle} (h : s.IsStyle r style) (extended : s.ExtendedBy s') :
    s'.IsStyle r style := by
  obtain ⟨mark, doubled, object, isMark, isDoubled⟩ := h
  exact ⟨mark, doubled, object.extended extended, isMark.extended extended, isDoubled.extended extended⟩

end Kinds

/-- The first class in the order of lookup of a class that keeps anything under a name keeps an object
of the given content there. -/
def Keeps (s : Session) (id : ClassId) (name : String) (content : Content) : Prop :=
  ∃ owner r, s.slot? id name = some (owner, .declared r) ∧ s.content r = content

/-- What a class keeps under a name is an object of the given content to which nothing was added. -/
def KeepsPlain (s : Session) (id : ClassId) (name : String) (content : Content) : Prop :=
  ∃ owner r, s.slot? id name = some (owner, .declared r) ∧ s.cells[r]? = some { content }

/-- What a class keeps under a name is a class. -/
def KeepsClass (s : Session) (id : ClassId) (name : String) (kept : ClassId) : Prop :=
  ∃ owner r, s.slot? id name = some (owner, .declared r) ∧ s.IsClass r kept

/-- What the building of filters relies on is what the library made it. -/
structure InOrder (s : Session) : Prop extends s.Closed where
  names : ∀ c : StandingClass, s.hierarchy.name c.id = c.name
  builtInNames : ∀ t ∈ SemanticType.fixed, s.hierarchy.name (StandingClass.builtIn t) = t.fixedName
  lineages : ∀ id, (Hierarchy.standing (α := Ref)).lineage id ≠ [] →
    s.hierarchy.lineage id = (Hierarchy.standing (α := Ref)).lineage id
  known : ∀ key r content, s.shared? key = some r → key.content? = some content →
    s.cells[r]? = some { content }
  classes : ∀ id r, s.shared? (.type id) = some r → s.content r = .type id ∧ s.below? r = none
  styles : ∀ r, s.shared? .defaultStyle = some r → s.IsStyle r {}
  functions : ∀ c ∈ StandingClass.asked, ∀ action f, c.function? action = some f →
    s.Keeps c.id action.name (.function f)
  tests : ∀ c : StandardCapability, s.KeepsPlain (StandingClass.ofCapability c).id Attribute.validator
    (.validator (.ofCatalogue c.tested))
  types : ∀ (c : StandingClass) (t : SemanticType), c.type? = some t →
    s.KeepsClass c.id Attribute.semanticType (StandingClass.builtIn t)
  untyped : s.slot? StandingClass.property.id Attribute.semanticType = none
  testing : s.Keeps StandingClass.validator.id "validate_python"
    (.member ⟨.method, StandingClass.validator.id, "validate_python"⟩)
  replacing : s.Keeps (StandingClass.builtIn .str) "replace"
    (.member ⟨.method, StandingClass.builtIn .str, "replace"⟩)
  hashing : ∀ c ∈ StandingClass.classesOfClasses, s.Keeps c.id (Action.name .hash)
    (.member ⟨.operator, Hierarchy.objectId, Action.name .hash⟩)

variable {s s' : Session}

/-- What a class keeps it keeps in a session that only grew. -/
theorem Keeps.extended {id : ClassId} {name : String} {content : Content} (h : s.Keeps id name content)
    (extended : s.ExtendedBy s') (closed : s.Closed) : s'.Keeps id name content := by
  obtain ⟨owner, r, slot, rfl⟩ := h
  have lt : r < s.cells.size := closed.slots _ _ _ (mem_of_slot? slot)
  exact ⟨owner, r, by rw [extended.slot?_eq, slot], extended.content_eq lt⟩

/-- What nothing was added to is as plain in a session that only grew. -/
theorem KeepsPlain.extended {id : ClassId} {name : String} {content : Content}
    (h : s.KeepsPlain id name content) (extended : s.ExtendedBy s') (closed : s.Closed) :
    s'.KeepsPlain id name content := by
  obtain ⟨owner, r, slot, cell⟩ := h
  have lt : r < s.cells.size := closed.slots _ _ _ (mem_of_slot? slot)
  exact ⟨owner, r, by rw [extended.slot?_eq, slot], by rw [extended.cells r lt, cell]⟩

/-- A class that a class keeps it keeps in a session that only grew. -/
theorem KeepsClass.extended {id kept : ClassId} {name : String} (h : s.KeepsClass id name kept)
    (extended : s.ExtendedBy s') : s'.KeepsClass id name kept := by
  obtain ⟨owner, r, slot, isClass⟩ := h
  exact ⟨owner, r, by rw [extended.slot?_eq, slot], isClass.extended extended⟩

section Growing

/-- A session with one more object. -/
def withObject (s : Session) (cell : Cell) : Session :=
  { s with cells := s.cells.push cell }

/-- A session in which an object is known as the only one of its kind. -/
def withShared (s : Session) (key : Shared) (r : Ref) : Session :=
  { s with shared := (key, r) :: s.shared }

/-- A session with more records. -/
def withRecords (s : Session) (records : List Record) : Session :=
  { s with records := s.records ++ records }

@[simp] theorem size_withObject (cell : Cell) : (s.withObject cell).cells.size = s.cells.size + 1 := by
  simp [withObject]

@[simp] theorem shared?_withObject (cell : Cell) (key : Shared) :
    (s.withObject cell).shared? key = s.shared? key := rfl

@[simp] theorem hierarchy_withObject (cell : Cell) : (s.withObject cell).hierarchy = s.hierarchy := rfl

@[simp] theorem cells_withShared (key : Shared) (r : Ref) : (s.withShared key r).cells = s.cells := rfl

@[simp] theorem hierarchy_withShared (key : Shared) (r : Ref) :
    (s.withShared key r).hierarchy = s.hierarchy := rfl

/-- An object is known as the only one of its kind from then on, and all others are as they were. -/
theorem shared?_withShared (key other : Shared) (r : Ref) :
    (s.withShared key r).shared? other = if key = other then some r else s.shared? other := by
  by_cases h : key = other <;> simp [shared?, withShared, h]

/-- The cell of a new object is the one that it was made with. -/
theorem cells_withObject_new (cell : Cell) : (s.withObject cell).cells[s.cells.size]? = some cell := by
  simp [withObject]

/-- Another object leaves the objects that are there alone. -/
theorem cells_withObject_old (cell : Cell) {r : Ref} (h : r < s.cells.size) :
    (s.withObject cell).cells[r]? = s.cells[r]? := by
  simp [withObject, Array.getElem?_push_lt, h]

/-- A new object consists of what it was made of. -/
theorem content_withObject_new (cell : Cell) : (s.withObject cell).content s.cells.size = cell.content := by
  simp only [content, cells_withObject_new]

/-- A new object is of the class below that of its content that it was made of. -/
theorem below?_withObject_new (cell : Cell) : (s.withObject cell).below? s.cells.size = cell.below? := by
  simp only [below?, cells_withObject_new, Option.bind_some]

/-- A new object has the attributes that it was made with. -/
theorem attributes_withObject_new (content : Content) (attributes : Table Ref) :
    (s.withObject { content, attributes }).attributes s.cells.size = attributes := by
  simp only [Session.attributes, cells_withObject_new, Option.map_none]

/-- A session with one more object only grew. -/
theorem extendedBy_withObject (s : Session) (cell : Cell) : s.ExtendedBy (s.withObject cell) where
  size := by simp
  cells _ h := cells_withObject_old cell h
  shared _ _ h := h
  types _ _ h := .inl h
  hierarchy := rfl
  names := rfl

/-- A session with more records only grew. -/
theorem extendedBy_withRecords (s : Session) (records : List Record) :
    s.ExtendedBy (s.withRecords records) :=
  ⟨le_refl _, fun _ _ => rfl, fun _ _ h => h, fun _ _ h => .inl h, rfl, rfl⟩

/-- A session in which a new kind of object is known only grew. An object for a class says nothing of
the class. -/
theorem extendedBy_withShared {key : Shared} (unknown : s.shared? key = none) {r : Ref}
    (plain : ∀ id, key = .type id → s.cells[r]? = some { content := .type id }) :
    s.ExtendedBy (s.withShared key r) where
  size := le_refl _
  cells _ _ := rfl
  shared other q h := by
    have different : key ≠ other := by
      rintro rfl
      simp [unknown] at h
    rw [shared?_withShared, if_neg different, h]
  types id q h := by
    rw [shared?_withShared] at h
    split at h
    · rename_i same
      obtain rfl : r = q := by simpa using h
      exact .inr (plain id same)
    · exact .inl h
  hierarchy := rfl
  names := rfl

/-- What stays true of a session in order that only grows, given that it is closed and that what
is known in it is what it is known as. -/
theorem InOrder.extended (order : s.InOrder) (extended : s.ExtendedBy s') (closed : s'.Closed)
    (known : ∀ key r content, s'.shared? key = some r → key.content? = some content →
      s'.cells[r]? = some { content })
    (classes : ∀ id r, s'.shared? (.type id) = some r → s'.content r = .type id ∧ s'.below? r = none)
    (styles : ∀ r, s'.shared? .defaultStyle = some r → s'.IsStyle r {}) : s'.InOrder where
  toClosed := closed
  names c := by rw [extended.hierarchy, order.names]
  builtInNames t h := by rw [extended.hierarchy, order.builtInNames t h]
  lineages id h := by rw [extended.hierarchy, order.lineages id h]
  known := known
  classes := classes
  styles := styles
  functions c h action f found := (order.functions c h action f found).extended extended order.toClosed
  tests c := (order.tests c).extended extended order.toClosed
  types c t h := (order.types c t h).extended extended
  untyped := by rw [extended.slot?_eq, order.untyped]
  testing := order.testing.extended extended order.toClosed
  replacing := order.replacing.extended extended order.toClosed
  hashing c h := (order.hashing c h).extended extended order.toClosed

/-- A new object that refers to objects that are there leaves the session in order. -/
theorem InOrder.withObject (order : s.InOrder) {cell : Cell} (refs : ∀ q ∈ cell.refs, q < s.cells.size) :
    (s.withObject cell).InOrder := by
  have extended := extendedBy_withObject s cell
  refine order.extended extended ⟨fun r c found q member => ?_, fun id name q h => ?_, fun key r h => ?_,
    order.collected⟩ (fun key r content h told => ?_) (fun id r h => ?_)
    fun r h => (order.styles r h).extended extended
  · rw [size_withObject]
    by_cases old : r < s.cells.size
    · rw [cells_withObject_old cell old] at found
      exact (order.cells r c found q member).trans (Nat.lt_succ_self _)
    · have lt : r < s.cells.size + 1 := size_withObject cell ▸ (Array.getElem?_eq_some_iff.mp found).1
      have new : r = s.cells.size := Nat.le_antisymm (Nat.lt_succ_iff.mp lt) (Nat.not_lt.mp old)
      rw [new, cells_withObject_new, Option.some.injEq] at found
      exact (refs q (found ▸ member)).trans (Nat.lt_succ_self _)
  · rw [size_withObject]
    exact (order.slots id name q h).trans (Nat.lt_succ_self _)
  · rw [size_withObject]
    exact (order.shared key r h).trans (Nat.lt_succ_self _)
  · rw [extended.cells r (order.shared key r h)]
    exact order.known key r content h told
  · rw [extended.content_eq (order.shared (.type id) r h), extended.below?_eq (order.shared (.type id) r h)]
    exact order.classes id r h

/-- An object that becomes the only one of its kind, and is what it becomes known as, leaves the
session in order. -/
theorem InOrder.withShared (order : s.InOrder) {key : Shared} (unknown : s.shared? key = none) {r : Ref}
    (lt : r < s.cells.size) (plain : ∀ id, key = .type id → s.cells[r]? = some { content := .type id })
    (told : ∀ content, key.content? = some content → s.cells[r]? = some { content })
    (style : key = .defaultStyle → s.IsStyle r {}) : (s.withShared key r).InOrder := by
  have extended := extendedBy_withShared unknown plain
  refine order.extended extended ⟨order.cells, order.slots, ?_, ?_⟩ ?_ ?_ ?_
  · intro other q h
    rw [shared?_withShared] at h
    split at h
    · obtain rfl : r = q := by simpa using h
      exact lt
    · exact order.shared other q h
  · intro id name properties h
    rw [shared?_withShared]
    split
    · rfl
    · exact order.collected id name properties h
  · intro other q content h toldOther
    rw [shared?_withShared] at h
    split at h
    · rename_i same
      obtain rfl : r = q := by simpa using h
      exact told content (same ▸ toldOther)
    · exact order.known other q content h toldOther
  · intro id q h
    rw [shared?_withShared] at h
    split at h
    · rename_i same
      obtain rfl : r = q := by simpa using h
      have cell : (s.withShared key r).cells[r]? = some { content := .type id } := plain id same
      simp only [content, below?, cell, Option.bind_some, and_self]
    · exact order.classes id q h
  · intro q h
    rw [shared?_withShared] at h
    split at h
    · rename_i same
      obtain rfl : r = q := by simpa using h
      exact (style same).extended extended
    · exact (order.styles q h).extended extended

/-- Records say nothing of the objects. -/
theorem InOrder.withRecords (order : s.InOrder) (records : List Record) : (s.withRecords records).InOrder :=
  order.extended (extendedBy_withRecords s records) ⟨order.cells, order.slots, order.shared, order.collected⟩
    order.known order.classes fun r h => (order.styles r h).extended (extendedBy_withRecords s records)

end Growing

section Library

/-- What is known as the object for a class is the class. -/
theorem InOrder.isClass (order : s.InOrder) {r : Ref} {id : ClassId} (h : s.shared? (.type id) = some r) :
    s.IsClass r id :=
  ⟨order.shared _ r h, h, (order.classes id r h).1, (order.classes id r h).2⟩

variable {r : Ref} {c : StandingClass} {attributes : Table Ref}

/-- What is above a class that is always there is what the library put there. -/
theorem InOrder.isBelow_eq (order : s.InOrder) {c d : StandingClass}
    (h : (Hierarchy.standing (α := Ref)).lineage c.id ≠ []) :
    s.isBelow c.id d = ((Hierarchy.standing (α := Ref)).lineage c.id).contains d.id := by
  rw [isBelow, order.lineages c.id h]

/-- The class of an object of a standing class has the name that the library gave it. -/
theorem IsObject.className_eq (h : s.IsObject r c attributes) (order : s.InOrder) :
    s.className r = c.name := by
  rw [className, h.classOf_eq, order.names]

end Library

end Session

end FilterAlgebra
