import FilterAlgebra.Proofs.Requests

/-!
# Classes as keys

A bundle keeps its capabilities in a mapping with classes for keys. Such a mapping asks
keys whether they are equal and whether they can be keys at all, which takes a look into
objects and their classes. In a session in order it comes to this: classes can be keys,
and two of them are equal only if they are one (`Session.find?_classes`). Since there is
one object for each class, looking for the object is looking for the type.
-/

set_option autoImplicit false

namespace FilterAlgebra

/-- The number of a built-in class is that of its type. -/
theorem Hierarchy.classId?_of_builtIn? {id : ClassId} {t : SemanticType} (h : builtIn? id = some t) :
    classId? t = some id ∧ t.isClass = true := by
  have all : ∀ entry ∈ builtIns, classId? entry.2 = some entry.1 ∧ entry.2.isClass = true := by decide
  unfold builtIn? at h
  split at h
  · rename_i isObject
    obtain rfl := Option.some.inj h
    exact ⟨isObject ▸ rfl, rfl⟩
  · obtain ⟨entry, found, rfl⟩ := Option.map_eq_some_iff.mp h
    obtain rfl : entry.1 = id := by simpa using List.find?_some found
    exact all entry (List.mem_of_find?_eq_some found)

namespace Session

variable {s : Session} {r q : Ref} {id id' : ClassId}

/-- The number of a class can be told from its type. -/
theorem classId?_classType (s : Session) (id : ClassId) : Hierarchy.classId? (s.classType id) = some id := by
  unfold classType
  cases isBuiltIn : Hierarchy.builtIn? id with
  | none => rfl
  | some t => exact (Hierarchy.classId?_of_builtIn? isBuiltIn).1

/-- The type of a class is one. -/
theorem isClass_classType (s : Session) (id : ClassId) : (s.classType id).isClass = true := by
  unfold classType
  cases isBuiltIn : Hierarchy.builtIn? id with
  | none => rfl
  | some t => exact (Hierarchy.classId?_of_builtIn? isBuiltIn).2

/-- Two classes are of one type only if they are one. -/
theorem classType_inj : s.classType id = s.classType id' ↔ id = id' := by
  constructor
  · intro same
    have numbers := congrArg Hierarchy.classId? same
    rw [classId?_classType, classId?_classType] at numbers
    exact Option.some.inj numbers
  · rintro rfl
    rfl

/-- The object for the type of a class is that of the class. -/
theorem typeObject_classType (s : Session) (id : ClassId) :
    SessionM.typeObject (s.classType id) = SessionM.classObject id := by
  have number := s.classId?_classType id
  have isClass := s.isClass_classType id
  cases type : s.classType id with
  | absent | other h => simp [type, SemanticType.isClass] at isClass
  | _ => 
    rw [type] at number
    simp only [SessionM.typeObject, number]

/-- An object is a class of one number only. -/
theorem IsClass.id_eq (h : s.IsClass r id) (h' : s.IsClass r id') : id = id' := by
  have same := h.content_eq.symm.trans h'.content_eq
  exact Content.type.inj same

/-- There is one object for each class. -/
theorem IsClass.ref_eq_iff (h : s.IsClass r id) (h' : s.IsClass q id') : r = q ↔ id = id' := by
  constructor
  · rintro rfl
    exact h.id_eq h'
  · rintro rfl
    exact Option.some.inj (h.known.symm.trans h'.known)

/-- An object is the class for a type. -/
def IsType (s : Session) (r : Ref) (t : SemanticType) : Prop :=
  ∃ id, s.IsClass r id ∧ s.classType id = t

/-- The class for a type stays so. -/
theorem IsType.extended {s' : Session} {t : SemanticType} (h : s.IsType r t) (extended : s.ExtendedBy s')
    (closed : s.Closed) : s'.IsType r t := by
  obtain ⟨id, isClass, type⟩ := h
  exact ⟨id, isClass.extended extended, by rw [extended.classType_eq closed, type]⟩

/-- There is one class for each type. -/
theorem IsType.ref_eq_iff {t u : SemanticType} (h : s.IsType r t) (h' : s.IsType q u) : r = q ↔ t = u := by
  obtain ⟨id, isClass, rfl⟩ := h
  obtain ⟨id', isClass', rfl⟩ := h'
  rw [isClass.ref_eq_iff isClass', classType_inj]

/-- The class for a type is there. -/
theorem IsType.lt {t : SemanticType} (h : s.IsType r t) : r < s.cells.size := by
  obtain ⟨id, isClass, -⟩ := h
  exact isClass.lt

/-- The class for a type, as a type. -/
theorem IsType.typeOf {t : SemanticType} (h : s.IsType r t) : s.typeOf r = t := by
  obtain ⟨id, isClass, rfl⟩ := h
  exact isClass.typeOf

/-- Classes are equal only if they are one. -/
theorem IsClass.equal_eq (h : s.IsClass r id) (h' : s.IsClass q id') : s.equal r q = .ok (r == q) := by
  have depth : s.depth = 2 * s.cells.size + 1 + 1 := rfl
  have madeOf : s.madeOf? r = none := by simp only [madeOf?, h.content_eq, h.below?_eq]
  rw [equal, depth, Equality.equalWithin, Equality.compare, madeOf]
  simp only [Equality.compareContents, h.content_eq, h'.content_eq, Content.entries?]

/-- A class is an object of one of the classes of classes. -/
theorem classOfClass_mem (s : Session) (id : ClassId) : s.classOfClass id ∈ StandingClass.classesOfClasses := by
  unfold classOfClass
  simp only [List.find?_cons, List.find?_nil]
  split
  · simp [StandingClass.classesOfClasses]
  · split
    · simp [StandingClass.classesOfClasses]
    · split <;> simp [StandingClass.classesOfClasses]

/-- Classes can be keys. -/
theorem IsClass.checkHashable_eq (h : s.IsClass r id) (order : s.InOrder) : s.checkHashable r = .ok () := by
  obtain ⟨owner, p, slot, member⟩ := order.hashing _ (s.classOfClass_mem id)
  have classOf : s.classOf r = (s.classOfClass id).id := by
    rw [classOf, h.below?_eq, h.content_eq]
    rfl
  have kept : s.kept? (s.classOf r) (Action.name .hash) = some p := by
    rw [kept?, classOf, slot]
    rfl
  have depth : s.depth = 2 * s.cells.size + 1 + 1 := rfl
  have never : Equality.unhashable? s s.depth r = none := by
    rw [depth, Equality.unhashable?, kept, Option.map_some, member, h.content_eq]
  rw [checkHashable, never]

/-- Among classes a class is found as itself. -/
theorem find?_classes {t : SemanticType} (order : s.InOrder) (key : s.IsType r t) {entries : List (Ref × Ref)}
    (classes : ∀ entry ∈ entries, ∃ u, s.IsType entry.1 u) :
    s.find? r entries = .ok ((entries.find? fun entry => entry.1 == r).map fun entry => entry.2) := by
  obtain ⟨id, key, -⟩ := key
  have found : Equality.find? s.equal r entries =
      .ok ((entries.find? fun entry => entry.1 == r).map fun entry => entry.2) := by
    induction entries with
    | nil => rfl
    | cons entry rest ih =>
      obtain ⟨k, v⟩ := entry
      obtain ⟨_, id', isClass, -⟩ := classes (k, v) (by simp)
      rw [Equality.find?, Equality.orSame, List.find?_cons]
      by_cases same : k = r
      · simp [same]
        rfl
      · rw [if_neg same, isClass.equal_eq key]
        simp only [beq_eq_false_iff_ne.mpr same]
        exact ih fun entry member => classes entry (List.mem_cons_of_mem _ member)
  rw [find?, key.checkHashable_eq order]
  exact found

end Session

end FilterAlgebra
