import FilterAlgebra.Proofs.Simulation

/-!
# Making what classes keep

Before the first step of a session the classes that are always there are given what
they keep. The objects for that are made one after the other, and all that happens
besides is that the objects for named values get attributes of their own. So an object
of any other kind stays as it was made (`Session.PreparedTo`), and what there is only
one object of is what it is known as (`Session.Tidy`). `Prepared` says that a
computation comes to a result and does no more to a session than this; there is a rule
for each way to make objects.
-/

set_option autoImplicit false

namespace FilterAlgebra

/-- Whether a content is that of an object for a named value. -/
def Content.isNamed : Content → Bool
  | .atom (.color _) | .atom (.text (.tag _)) => true
  | _ => false

/-- What is in a table after a put was put there or was there. -/
theorem Table.eq_or_mem_of_mem_put {α : Type} {table : Table α} {key : String} {value : α} {entry : String × α}
    (h : entry ∈ table.put key value) : entry = (key, value) ∨ entry ∈ table := by
  induction table with
  | nil => exact .inl (by simpa [put] using h)
  | cons first rest ih =>
    obtain ⟨k, v⟩ := first
    by_cases same : k = key
    · simp only [put, same, if_true, List.mem_cons] at h
      obtain rfl | member := h
      · exact .inl rfl
      · exact .inr (List.mem_cons_of_mem _ member)
    · simp only [put, same, if_false, List.mem_cons] at h
      obtain rfl | member := h
      · exact .inr (by simp)
      · exact (ih member).imp_right (List.mem_cons_of_mem _)

namespace Shared

/-- The content of an object for a named value, where the kind tells it. -/
def named? : Shared → Option Content
  | color c => some (.atom (.color c))
  | tag t => some (.atom (.text (.tag t)))
  | _ => Option.none

/-- What is known by its kind is no named value. -/
theorem isNamed_of_content? {key : Shared} {content : Content} (told : key.content? = some content) :
    content.isNamed = false := by
  cases key <;> simp only [content?, Option.some.injEq, reduceCtorEq] at told <;> subst told <;> rfl

/-- The only object of a value is known for the value, or for having it as its name says. -/
theorem told_of_ofValue? {v : Value} {key : Shared} (noTuple : v ≠ .tuple []) (known : ofValue? v = some key) :
    key.content? = some (.atom v) ∨ key.named? = some (.atom v) := by
  cases v with
  | none | bool | int | bytes => exact .inl (Value.content?_of_isSimple rfl known)
  | text t =>
    cases t with
    | plain => exact .inl (Value.content?_of_isSimple rfl known)
    | custom => simp [ofValue?] at known
    | tag =>
      obtain rfl := Option.some.inj known
      exact .inr rfl
  | color =>
    obtain rfl := Option.some.inj known
    exact .inr rfl
  | tuple items =>
    cases items with
    | nil => exact absurd rfl noTuple
    | cons => simp [ofValue?] at known
  | _ => simp [ofValue?] at known

end Shared

namespace Session

/-- No object refers to nothing, none keeps its attributes elsewhere, and what there is only one object
of is what it is known as. -/
structure Tidy (s : Session) : Prop where
  cells : ∀ (r : Ref) (cell : Cell), s.cells[r]? = some cell → ∀ q ∈ cell.refs, q < s.cells.size
  kept : ∀ (r : Ref) (cell : Cell), s.cells[r]? = some cell → cell.keptIn? = none
  slots : ∀ id name q, (name, Slot.declared q) ∈ s.hierarchy.own id → q < s.cells.size
  shared : ∀ key r, s.shared? key = some r → r < s.cells.size
  known : ∀ key r content, s.shared? key = some r → key.content? = some content → s.IsPlain r content
  named : ∀ key r content, s.shared? key = some r → key.named? = some content → s.content r = content
  classes : ∀ id r, s.shared? (.type id) = some r → s.IsPlain r (.type id)
  styles : ∀ r, s.shared? .defaultStyle = some r → s.IsStyle r {}

/-- In a session objects were made, and nothing that was there changed but the attributes of named
values. -/
structure PreparedTo (s s' : Session) : Prop where
  size : s.cells.size ≤ s'.cells.size
  contents : ∀ r < s.cells.size, s'.content r = s.content r
  cells : ∀ r < s.cells.size, (s.content r).isNamed = false → s'.cells[r]? = s.cells[r]?
  shared : ∀ key r, s.shared? key = some r → s'.shared? key = some r
  hierarchy : s'.hierarchy = s.hierarchy

namespace PreparedTo

variable {s s' s'' : Session}

/-- Nothing changed where nothing was done. -/
theorem refl (s : Session) : s.PreparedTo s :=
  ⟨le_refl _, fun _ _ => rfl, fun _ _ _ => rfl, fun _ _ h => h, rfl⟩

/-- Objects may be made one after the other. -/
theorem trans (first : s.PreparedTo s') (second : s'.PreparedTo s'') : s.PreparedTo s'' where
  size := first.size.trans second.size
  contents r h := (second.contents r (h.trans_le first.size)).trans (first.contents r h)
  cells r h unnamed := by
    have unnamed' : (s'.content r).isNamed = false := by rw [first.contents r h, unnamed]
    rw [second.cells r (h.trans_le first.size) unnamed', first.cells r h unnamed]
  shared key r h := second.shared key r (first.shared key r h)
  hierarchy := second.hierarchy.trans first.hierarchy

/-- A plain object that is no named value stays as it is. -/
theorem isPlain (h : s.PreparedTo s') {r : Ref} {content : Content} (plain : s.IsPlain r content)
    (unnamed : content.isNamed = false) : s'.IsPlain r content :=
  (h.cells r plain.lt (plain.content_eq ▸ unnamed)).trans plain

/-- A style stays as it is. -/
theorem isStyle (h : s.PreparedTo s') {r : Ref} {style : QuoteStyle} (isStyle : s.IsStyle r style) :
    s'.IsStyle r style := by
  obtain ⟨mark, doubled, object, isMark, isDoubled⟩ := isStyle
  have unnamed : (s.content r).isNamed = false := by
    rw [object.content_eq]
    rfl
  exact ⟨mark, doubled, (h.cells r object.lt unnamed).trans object, h.isPlain isMark rfl, h.isPlain isDoubled rfl⟩

end PreparedTo

section Growing

variable {s s' : Session}

/-- A session that only grew has nothing changed. -/
theorem ExtendedBy.preparedTo (extended : s.ExtendedBy s') : s.PreparedTo s' :=
  ⟨extended.size, fun _ h => extended.content_eq h, fun r h _ => extended.cells r h, extended.shared,
    extended.hierarchy⟩

/-- What stays tidy: the objects for classes, kinds and styles that there are, given the new ones. -/
theorem Tidy.withObject (tidy : s.Tidy) {cell : Cell} (refs : ∀ q ∈ cell.refs, q < s.cells.size)
    (kept : cell.keptIn? = none) : (s.withObject cell).Tidy := by
  have extended := extendedBy_withObject s cell
  have cases : ∀ (r : Ref) (found : Cell), (s.withObject cell).cells[r]? = some found → s.cells[r]? = some found ∨ found = cell := by
    intro r found h
    by_cases old : r < s.cells.size
    · rw [cells_withObject_old cell old] at h
      exact .inl h
    · have lt : r < s.cells.size + 1 := size_withObject cell ▸ (Array.getElem?_eq_some_iff.mp h).1
      have new : r = s.cells.size := Nat.le_antisymm (Nat.lt_succ_iff.mp lt) (Nat.not_lt.mp old)
      rw [new, cells_withObject_new, Option.some.injEq] at h
      exact .inr h.symm
  refine ⟨fun r found h q member => ?_, fun r found h => ?_, fun id name q h => ?_, fun key r h => ?_,
    fun key r content h told => ?_, fun key r content h told => ?_, fun id r h => ?_, fun r h => ?_⟩
  · rw [size_withObject]
    obtain old | rfl := cases r found h
    · exact (tidy.cells r found old q member).trans (Nat.lt_succ_self _)
    · exact (refs q member).trans (Nat.lt_succ_self _)
  · obtain old | rfl := cases r found h
    · exact tidy.kept r found old
    · exact kept
  · rw [size_withObject]
    exact (tidy.slots id name q h).trans (Nat.lt_succ_self _)
  · rw [size_withObject]
    exact (tidy.shared key r h).trans (Nat.lt_succ_self _)
  · exact (tidy.known key r content h told).extended extended
  · rw [extended.content_eq (tidy.shared key r h)]
    exact tidy.named key r content h told
  · exact (tidy.classes id r h).extended extended
  · exact (tidy.styles r h).extended extended

/-- A kind becomes known by an object that is what the kind tells. -/
theorem Tidy.withShared (tidy : s.Tidy) {key : Shared} {r : Ref} (lt : r < s.cells.size)
    (told : ∀ content, key.content? = some content → s.IsPlain r content)
    (named : ∀ content, key.named? = some content → s.content r = content)
    (type : ∀ id, key = .type id → s.IsPlain r (.type id)) (style : key = .defaultStyle → s.IsStyle r {}) :
    (s.withShared key r).Tidy := by
  have cases : ∀ other q, (s.withShared key r).shared? other = some q →
      (key = other ∧ r = q) ∨ s.shared? other = some q := by
    intro other q h
    rw [shared?_withShared] at h
    split at h
    · exact .inl ⟨‹_›, Option.some.inj h⟩
    · exact .inr h
  refine ⟨tidy.cells, tidy.kept, tidy.slots, fun other q h => ?_, fun other q content h toldOther => ?_,
    fun other q content h toldOther => ?_, fun id q h => ?_, fun q h => ?_⟩
  · obtain ⟨-, rfl⟩ | old := cases other q h
    · exact lt
    · exact tidy.shared other q old
  · obtain ⟨rfl, rfl⟩ | old := cases other q h
    · exact told content toldOther
    · exact tidy.known other q content old toldOther
  · obtain ⟨rfl, rfl⟩ | old := cases other q h
    · exact named content toldOther
    · exact tidy.named other q content old toldOther
  · obtain ⟨same, rfl⟩ | old := cases _ q h
    · exact type id same
    · exact tidy.classes id q old
  · obtain ⟨same, rfl⟩ | old := cases _ q h
    · exact style same
    · exact tidy.styles q old

end Growing

end Session

namespace SessionM

variable {α β : Type} {s s' : Session}

/-- A computation comes to a result, and all that it does in a session is to prepare objects. -/
def Prepared (P : Session → α → Prop) (s : Session) (p : SessionM α) : Prop :=
  ∃ a s', p.runIn s = (.ok a, s') ∧ s.PreparedTo s' ∧ s'.Tidy ∧ P s' a

/-- An object is there. -/
abbrev IsThere (s : Session) (r : Ref) : Prop :=
  r < s.cells.size

/-- The two objects of a pair are there. -/
abbrev BothThere (s : Session) (pair : Ref × Ref) : Prop :=
  pair.1 < s.cells.size ∧ pair.2 < s.cells.size

/-- All objects of a list are there. -/
abbrev AreThere (s : Session) (items : List Ref) : Prop :=
  ∀ r ∈ items, r < s.cells.size

/-- What is there stays there. -/
theorem BothThere.prepared (s s' : Session) (pair : Ref × Ref) (grown : s.PreparedTo s')
    (h : BothThere s pair) : BothThere s' pair :=
  ⟨lt_of_lt_of_le h.1 grown.size, lt_of_lt_of_le h.2 grown.size⟩

/-- A mapping refers to nothing but what is in its entries. -/
theorem refs_dict {entries : List (Ref × Ref)} (there : ∀ entry ∈ entries, BothThere s entry) :
    ∀ q ∈ (Content.dict entries).refs, q < s.cells.size := by
  intro q member
  simp only [Content.refs, List.mem_append, List.mem_map] at member
  obtain ⟨entry, found, rfl⟩ | ⟨entry, found, rfl⟩ := member
  · exact (there entry found).1
  · exact (there entry found).2

namespace Prepared

section Rules

variable {P : Session → α → Prop} {Q : Session → β → Prop} {p : SessionM α}

/-- A computation that is its result prepares nothing. -/
theorem pure (tidy : s.Tidy) {a : α} (h : P s a) : Prepared P s (Pure.pure a) :=
  ⟨a, s, rfl, .refl s, tidy, h⟩

/-- What holds more strictly holds. -/
theorem imp {P' : Session → α → Prop} (h : Prepared P s p)
    (weaker : ∀ s' a, s.PreparedTo s' → s'.Tidy → P s' a → P' s' a) : Prepared P' s p := by
  obtain ⟨a, s', ends, grown, tidy, holds⟩ := h
  exact ⟨a, s', ends, grown, tidy, weaker s' a grown tidy holds⟩

/-- Computations that prepare objects compose. -/
theorem bind {next : α → SessionM β} (first : Prepared P s p)
    (rest : ∀ s' a, s.PreparedTo s' → s'.Tidy → P s' a → Prepared Q s' (next a)) :
    Prepared Q s (p >>= next) := by
  obtain ⟨a, s', ends, grown, tidy, holds⟩ := first
  obtain ⟨b, s'', ends', grown', tidy', holds'⟩ := rest s' a grown tidy holds
  exact ⟨b, s'', by rw [runIn_bind_of_ok ends, ends'], grown.trans grown', tidy', holds'⟩

/-- What is read off the session is known to the rest of a computation. -/
theorem get_bind {next : Session → SessionM β} (rest : Prepared Q s (next s)) :
    Prepared Q s (MonadState.get >>= next) := by
  unfold Prepared
  rw [runIn_get_bind]
  exact rest

/-- What is prepared for each item of a list is prepared for the list, if it stays as it is. -/
theorem mapM {f : α → SessionM β} {R : Session → α → β → Prop} {as : List α} (tidy : s.Tidy)
    (step : ∀ a ∈ as, ∀ s', s.PreparedTo s' → s'.Tidy → Prepared (fun s'' b => R s'' a b) s' (f a))
    (stays : ∀ s' s'' a b, s'.PreparedTo s'' → R s' a b → R s'' a b) :
    Prepared (fun s' bs => List.Forall₂ (R s') as bs) s (as.mapM f) := by
  induction as generalizing s with
  | nil => exact Prepared.pure tidy .nil
  | cons a as ih =>
    rw [List.mapM_cons]
    refine (step a (by simp) s (.refl s) tidy).bind fun s₁ b grown₁ tidy₁ first => ?_
    have rest := ih tidy₁ fun a' member s' grown tidy' =>
      step a' (List.mem_cons_of_mem a member) s' (grown₁.trans grown) tidy'
    refine rest.bind fun s₂ bs grown₂ tidy₂ others => ?_
    exact Prepared.pure tidy₂ (.cons (stays s₁ s₂ a b grown₂ first) others)

/-- What is prepared for any item of a list holds of all that is prepared for the list. -/
theorem mapM_each {f : α → SessionM β} {as : List α} (tidy : s.Tidy)
    (stays : ∀ s' s'' b, s'.PreparedTo s'' → Q s' b → Q s'' b)
    (step : ∀ a ∈ as, ∀ s', s.PreparedTo s' → s'.Tidy → Prepared Q s' (f a)) :
    Prepared (fun s' bs => ∀ b ∈ bs, Q s' b) s (as.mapM f) := by
  refine (mapM (R := fun s' _ b => Q s' b) tidy step fun s' s'' _ b => stays s' s'' b).imp
    fun s' bs _ _ all b member => ?_
  obtain ⟨i, lt, rfl⟩ := List.mem_iff_getElem.mp member
  exact all.get (by rw [all.length_eq]; exact lt) lt

/-- Objects that are made for the items of a list are there. -/
theorem mapM_there {f : α → SessionM Ref} {as : List α} (tidy : s.Tidy)
    (step : ∀ a ∈ as, ∀ s', s.PreparedTo s' → s'.Tidy → Prepared IsThere s' (f a)) :
    Prepared AreThere s (as.mapM f) :=
  mapM_each tidy (fun _ _ _ grown isThere => lt_of_lt_of_le isThere grown.size) step

end Rules

section Objects

variable {content : Content}

/-- A new object has the content that it was made with. -/
theorem newObject (tidy : s.Tidy) {attributes : Table Ref}
    (refs : ∀ q ∈ Cell.refs { content, attributes }, q < s.cells.size) :
    Prepared (fun s' r => s'.cells[r]? = some { content, attributes }) s
      (SessionM.newObject content attributes) :=
  ⟨_, _, runIn_newObject content attributes s, (s.extendedBy_withObject _).preparedTo, tidy.withObject refs rfl,
    Session.cells_withObject_new _⟩

/-- A new object to which nothing is added is plain. -/
theorem newPlain (tidy : s.Tidy) (refs : ∀ q ∈ content.refs, q < s.cells.size) :
    Prepared (fun s' r => s'.IsPlain r content) s (SessionM.newObject content []) :=
  newObject tidy (by simpa [Cell.refs] using refs)

/-- The only object of its kind is known as it. It is made with a content that the kind, if it tells
any, tells. -/
theorem sharedObject (tidy : s.Tidy) {key : Shared} (refs : ∀ q ∈ content.refs, q < s.cells.size)
    (agrees : ∀ told, key.content? = some told → told = content)
    (named : ∀ told, key.named? = some told → told = content)
    (type : ∀ id, key = .type id → content = .type id) (noStyle : key ≠ .defaultStyle) :
    Prepared (fun s' r => s'.shared? key = some r) s (SessionM.sharedObject key content) := by
  unfold Prepared
  rw [runIn_sharedObject]
  cases h : s.shared? key with
  | some r => exact ⟨r, s, rfl, .refl s, tidy, h⟩
  | none =>
    have extended := s.extendedBy_withObject { content }
    have plain : (s.withObject { content }).IsPlain s.cells.size content := Session.cells_withObject_new _
    have tidy' : (s.withObject { content }).Tidy := tidy.withObject (by simpa [Cell.refs] using refs) rfl
    have unknown : (s.withObject { content }).shared? key = none := h
    have ofType : ∀ id, key = .type id → (s.withObject { content }).IsPlain s.cells.size (.type id) := by
      intro id same
      rw [← type id same]
      exact plain
    refine ⟨_, _, rfl, (extended.trans (Session.extendedBy_withShared unknown ofType)).preparedTo,
      tidy'.withShared (by simp) (fun told same => ?_) (fun told same => ?_) ofType
        fun same => absurd same noStyle, by simp [Session.shared?_withShared]⟩
    · rw [agrees told same]
      exact plain
    · rw [named told same]
      exact plain.content_eq

/-- The object for a class is known as it. -/
theorem classObject (tidy : s.Tidy) (id : ClassId) :
    Prepared (fun s' r => s'.shared? (.type id) = some r) s (SessionM.classObject id) := by
  refine sharedObject tidy (by simp [Content.refs]) (by simp [Shared.content?]) (by simp [Shared.named?])
    (fun id' same => ?_) (by simp)
  rw [Shared.type.inj same]

/-- Making the only object of a kind leaves the other kinds alone. -/
theorem shared?_sharedObject (s : Session) (content : Content) {key other : Shared} (different : key ≠ other) :
    ((SessionM.sharedObject key content).runIn s).2.shared? other = s.shared? other := by
  rw [runIn_sharedObject]
  cases s.shared? key with
  | some r => rfl
  | none => simp [Session.shared?_withShared, different]

/-- The only object of a kind that tells its content is known as it. -/
theorem onlyObject (tidy : s.Tidy) {key : Shared} (refs : ∀ q ∈ content.refs, q < s.cells.size)
    (told : key.content? = some content ∨ key.named? = some content) :
    Prepared (fun s' r => s'.shared? key = some r ∧ s'.shared? .defaultStyle = s.shared? .defaultStyle) s
      (SessionM.sharedObject key content) := by
  have onlyOne : ∀ other, key.content? = some other ∨ key.named? = some other → other = content := by
    intro other same
    cases key <;> simp_all [Shared.content?, Shared.named?]
  have noType : ∀ id, key = .type id → content = .type id := by
    rintro id rfl
    simp [Shared.content?, Shared.named?] at told
  have noStyle : key ≠ .defaultStyle := by
    rintro rfl
    simp [Shared.content?, Shared.named?] at told
  obtain ⟨r, s', ends, grown, tidy', known⟩ := sharedObject tidy refs (fun other same => onlyOne other (.inl same))
    (fun other same => onlyOne other (.inr same)) noType noStyle
  have others := shared?_sharedObject s content noStyle
  rw [ends] at others
  exact ⟨r, s', ends, grown, tidy', known, others⟩

/-- The only object of its kind has the content that the kind tells. -/
theorem toldObject (tidy : s.Tidy) {key : Shared} (refs : ∀ q ∈ content.refs, q < s.cells.size)
    (told : key.content? = some content ∨ key.named? = some content) :
    Prepared (fun s' r => s'.content r = content ∧ r < s'.cells.size) s (SessionM.sharedObject key content) := by
  refine (onlyObject tidy refs told).imp fun s' r _ tidy' known => ?_
  obtain same | same := told
  · exact ⟨(tidy'.known key r content known.1 same).content_eq, tidy'.shared key r known.1⟩
  · exact ⟨tidy'.named key r content known.1 same, tidy'.shared key r known.1⟩

/-- The object for a value that is no empty row has the value for its content. -/
theorem newAtom (tidy : s.Tidy) {v : Value} (noTuple : v ≠ .tuple []) :
    Prepared (fun s' r => s'.content r = .atom v ∧ r < s'.cells.size) s (SessionM.newAtom v) := by
  unfold SessionM.newAtom
  split
  · rename_i key known
    exact toldObject tidy (by simp [Content.refs]) (Shared.told_of_ofValue? noTuple known)
  · exact (newPlain tidy (by simp [Content.refs])).imp fun s' r _ _ plain => ⟨plain.content_eq, plain.lt⟩

/-- The object for a simple value is nothing but the value. -/
theorem newSimple (tidy : s.Tidy) {v : Value} (simple : v.isSimple = true) :
    Prepared (fun s' r => s'.IsPlain r (.atom v) ∧ s'.shared? .defaultStyle = s.shared? .defaultStyle) s
      (SessionM.newAtom v) := by
  unfold SessionM.newAtom
  cases known : Shared.ofValue? v with
  | none =>
    exact ⟨_, _, rfl, (s.extendedBy_withObject _).preparedTo, tidy.withObject (by simp [Cell.refs, Content.refs]) rfl,
      Session.cells_withObject_new _, rfl⟩
  | some key =>
    have told := Value.content?_of_isSimple simple known
    exact (onlyObject tidy (by simp [Content.refs]) (.inl told)).imp fun s' r _ tidy' isKnown =>
      ⟨tidy'.known key r _ isKnown.1 told, isKnown.2⟩

/-- The object for a text is there. -/
theorem newText (tidy : s.Tidy) (text : String) : Prepared IsThere s (SessionM.newText text) :=
  (newAtom (v := .str text) tidy (by simp)).imp fun _ _ _ _ h => h.2

/-- The object for the absent value is there. -/
theorem absent (tidy : s.Tidy) : Prepared IsThere s SessionM.absent :=
  (newAtom (v := .none) tidy (by simp)).imp fun _ _ _ _ h => h.2

/-- The object for a row of objects is there. -/
theorem newTuple (tidy : s.Tidy) {items : List Ref} (there : AreThere s items) :
    Prepared IsThere s (SessionM.newTuple items) := by
  have refs : ∀ q ∈ (Content.tuple items).refs, q < s.cells.size := there
  unfold SessionM.newTuple
  split
  · exact (toldObject tidy (by simp [Content.refs]) (.inl rfl)).imp fun _ _ _ _ h => h.2
  · exact (newPlain tidy refs).imp fun _ _ _ _ plain => plain.lt

/-- The object for a collection of objects is there. -/
theorem newCollection (tidy : s.Tidy) {items : List Ref} (there : AreThere s items) :
    Prepared IsThere s (SessionM.newCollection items) := by
  have refs : ∀ q ∈ (Content.collection true items).refs, q < s.cells.size := there
  unfold SessionM.newCollection
  split
  · exact (toldObject tidy (by simp [Content.refs]) (.inl rfl)).imp fun _ _ _ _ h => h.2
  · exact (newPlain tidy refs).imp fun _ _ _ _ plain => plain.lt

/-- The object for a type of a class is there. -/
theorem typeObject (tidy : s.Tidy) {type : SemanticType} (isClass : type.isClass = true) :
    Prepared (fun s' r => s'.shared? (.type (StandingClass.builtIn type)) = some r) s
      (SessionM.typeObject type) := by
  rw [typeObject_eq isClass]
  exact classObject tidy _

/-- The names in a table get objects that stand beside those that they name. -/
theorem newNames (tidy : s.Tidy) {table : Table Ref} (there : ∀ entry ∈ table, entry.2 < s.cells.size) :
    Prepared (fun s' entries => ∀ entry ∈ entries, BothThere s' entry) s
      (table.mapM fun (name, r) => do return (← SessionM.newText name, r)) := by
  refine mapM_each tidy BothThere.prepared fun entry member s' grown tidy' => ?_
  refine (newText tidy' entry.1).bind fun s'' r grown' tidy'' isThere => ?_
  exact Prepared.pure tidy'' ⟨isThere, (there entry member).trans_le (grown.trans grown').size⟩

/-- The object for a mapping of names to objects is there. -/
theorem newMapping (tidy : s.Tidy) {table : Table Ref} (there : ∀ entry ∈ table, entry.2 < s.cells.size) :
    Prepared IsThere s (SessionM.newMapping table) := by
  refine (newNames tidy there).bind fun s' entries _ tidy' there' => ?_
  exact (newPlain tidy' (refs_dict there')).imp fun _ _ _ _ plain => plain.lt

/-- The object for the properties that were collected for a class is known as it. -/
theorem collectedObject (tidy : s.Tidy) (id : ClassId) (properties : Table Ref)
    (there : ∀ entry ∈ properties, entry.2 < s.cells.size) :
    Prepared (fun s' r => s'.shared? (.collectedOf id) = some r) s (SessionM.collectedObject id properties) := by
  unfold SessionM.collectedObject
  refine Prepared.get_bind ?_
  cases known : s.shared? (.collectedOf id) with
  | some r => exact Prepared.pure tidy known
  | none =>
    unfold newListing
    rw [bind_assoc]
    refine (newNames tidy there).bind fun s' entries _ tidy' there' => ?_
    exact sharedObject tidy' (refs_dict there') (by simp [Shared.content?]) (by simp [Shared.named?]) (by simp) (by simp)

/-- A style is an object with the two options. -/
theorem newStyleObject (tidy : s.Tidy) (style : QuoteStyle) :
    Prepared (fun s' r => s'.IsStyle r style ∧ s'.shared? .defaultStyle = s.shared? .defaultStyle) s
      (SessionM.newStyleObject style) := by
  refine (newSimple (v := .str style.mark.char.toString) tidy rfl).bind fun s₁ mark _ tidy₁ isMark => ?_
  refine (newSimple (v := .bool style.doubled) tidy₁ rfl).bind fun s₂ doubled grown₂ tidy₂ isDoubled => ?_
  have isMark₂ := grown₂.isPlain isMark.1 rfl
  let cell : Cell :=
    { content := .object StandingClass.style.id
      attributes := [(QuoteStyle.markOption, mark), (QuoteStyle.doubledOption, doubled)] }
  have refs : ∀ q ∈ cell.refs, q < s₂.cells.size := by
    simp [cell, Cell.refs, Content.refs, isMark₂.lt, isDoubled.1.lt]
  have extended := s₂.extendedBy_withObject cell
  exact ⟨_, _, runIn_newObject _ _ _, extended.preparedTo, tidy₂.withObject refs rfl,
    ⟨mark, doubled, Session.cells_withObject_new _, isMark₂.extended extended, isDoubled.1.extended extended⟩,
    isDoubled.2.trans isMark.2⟩

/-- The style that is used where no other is given is prepared. -/
theorem defaultStyle (tidy : s.Tidy) : Prepared IsThere s SessionM.defaultStyle := by
  unfold SessionM.defaultStyle
  refine Prepared.get_bind ?_
  cases known : s.shared? .defaultStyle with
  | some r => exact Prepared.pure tidy (tidy.shared _ r known)
  | none =>
    refine (newStyleObject tidy {}).bind fun s₁ r _ tidy₁ isStyle => ?_
    have unknown : s₁.shared? .defaultStyle = none := isStyle.2.trans known
    have there : r < s₁.cells.size := by
      obtain ⟨_, _, object, -⟩ := isStyle.1
      exact object.lt
    exact ⟨r, s₁.withShared .defaultStyle r, rfl, (Session.extendedBy_withShared unknown (by simp)).preparedTo,
      tidy₁.withShared there (by simp [Shared.content?]) (by simp [Shared.named?]) (by simp) fun _ => isStyle.1, there⟩

/-- The objects for some values are there if each of them is. -/
theorem newValues (tidy : s.Tidy) {items : List Value}
    (each : ∀ v ∈ items, ∀ s', s.PreparedTo s' → s'.Tidy → Prepared IsThere s' (SessionM.newValue v)) :
    Prepared AreThere s (SessionM.newValues items) := by
  induction items generalizing s with
  | nil => exact Prepared.pure tidy (List.forall_mem_nil _)
  | cons v rest ih =>
    rw [SessionM.newValues]
    refine (each v (by simp) s (.refl s) tidy).bind fun s₁ first grown₁ tidy₁ isThere => ?_
    refine (ih tidy₁ fun w member s' grown => each w (List.mem_cons_of_mem v member) s' (grown₁.trans grown)).bind
      fun s₂ others grown₂ tidy₂ areThere => ?_
    refine Prepared.pure tidy₂ fun r member => ?_
    obtain rfl | member := List.mem_cons.mp member
    · exact lt_of_lt_of_le isThere grown₂.size
    · exact areThere r member

end Objects

end Prepared

/-- Values of which objects can be made: no type in them is an object itself. -/
inductive OfClasses : Value → Prop
  | list {items : List Value} (each : ∀ v ∈ items, OfClasses v) : OfClasses (.list items)
  | tuple {items : List Value} (each : ∀ v ∈ items, OfClasses v) : OfClasses (.tuple items)
  | dict {keys values : List Value} (eachKey : ∀ v ∈ keys, OfClasses v) (each : ∀ v ∈ values, OfClasses v) :
    OfClasses (.dict keys values)
  | type {t : SemanticType} (isClass : t.isClass = true) : OfClasses (.type t)
  | atom {v : Value} (noTuple : v ≠ .tuple []) (single : SessionM.newValue v = SessionM.newAtom v) : OfClasses v

/-- The object for a value is there, with those for its parts. -/
theorem Prepared.newValue {v : Value} (ofClasses : OfClasses v) (tidy : s.Tidy) :
    Prepared IsThere s (SessionM.newValue v) := by
  induction ofClasses generalizing s with
  | list each ih =>
    rw [SessionM.newValue]
    refine (Prepared.newValues tidy fun v member s' _ tidy' => ih v member tidy').bind
      fun s₁ items _ tidy₁ there => ?_
    have refs : ∀ q ∈ (Content.list items).refs, q < s₁.cells.size := there
    exact (Prepared.newPlain tidy₁ refs).imp fun _ _ _ _ plain => plain.lt
  | tuple each ih =>
    rw [SessionM.newValue]
    refine (Prepared.newValues tidy fun v member s' _ tidy' => ih v member tidy').bind
      fun s₁ items _ tidy₁ there => ?_
    exact Prepared.newTuple tidy₁ there
  | dict eachKey each ihKeys ih =>
    rw [SessionM.newValue]
    refine (Prepared.newValues tidy fun v member s' _ tidy' => ihKeys v member tidy').bind
      fun s₁ keys _ tidy₁ thereKeys => ?_
    refine (Prepared.newValues tidy₁ fun v member s' _ tidy' => ih v member tidy').bind
      fun s₂ values grown₂ tidy₂ there => ?_
    have both : ∀ entry ∈ keys.zip values, BothThere s₂ entry := fun entry member =>
      ⟨(thereKeys _ (List.of_mem_zip member).1).trans_le grown₂.size, there _ (List.of_mem_zip member).2⟩
    exact (Prepared.newPlain tidy₂ (refs_dict both)).imp fun _ _ _ _ plain => plain.lt
  | type isClass =>
    rw [SessionM.newValue]
    exact (Prepared.typeObject tidy isClass).imp fun s' r _ tidy' known => tidy'.shared _ r known
  | atom noTuple single =>
    rw [single]
    exact (Prepared.newAtom tidy noTuple).imp fun _ _ _ _ h => h.2

section NamedValues

variable {r : Ref} {change : Cell → Cell}

/-- Of a named value the attributes may change. -/
theorem Prepared.modifyCell (tidy : s.Tidy) (lt : r < s.cells.size) (named : (s.content r).isNamed = true)
    (content : ∀ cell, (change cell).content = cell.content) (kept : ∀ cell, (change cell).keptIn? = cell.keptIn?)
    (refs : ∀ cell, s.cells[r]? = some cell → ∀ q ∈ (change cell).refs, q < s.cells.size) :
    Prepared (fun s' _ => s'.content r = s.content r ∧ r < s'.cells.size) s (SessionM.modifyCell r change) := by
  let s' : Session := { s with cells := s.cells.modify r change }
  have size : s'.cells.size = s.cells.size := Array.size_modify
  have cell : ∀ q, s'.cells[q]? = if r = q then s.cells[q]?.map change else s.cells[q]? := fun q =>
    Array.getElem?_modify
  have contents : ∀ q, s'.content q = s.content q := by
    intro q
    by_cases same : r = q
    · simp only [Session.content, cell, same, if_true]
      cases s.cells[q]? with
      | none => rfl
      | some found => exact content found
    · simp only [Session.content, cell, same, if_false]
  have others : ∀ q, (s.content q).isNamed = false → s'.cells[q]? = s.cells[q]? := by
    intro q unnamed
    have different : r ≠ q := by
      rintro rfl
      rw [named] at unnamed
      cases unnamed
    rw [cell, if_neg different]
  have grown : s.PreparedTo s' := ⟨size.ge, fun q _ => contents q, fun q _ => others q, fun _ _ h => h, rfl⟩
  refine ⟨(), s', rfl, grown, ⟨fun q found h p member => ?_, fun q found h => ?_, fun id name q h => ?_,
    fun key q h => ?_, fun key q told h same => ?_, fun key q told h same => ?_, fun id q h => ?_, fun q h => ?_⟩,
    contents r, size ▸ lt⟩
  · rw [size]
    rw [cell] at h
    split at h
    · rename_i same
      obtain ⟨old, found', rfl⟩ := Option.map_eq_some_iff.mp h
      exact refs old (same ▸ found') p member
    · exact tidy.cells q found h p member
  · rw [cell] at h
    split at h
    · obtain ⟨old, found', rfl⟩ := Option.map_eq_some_iff.mp h
      rw [kept]
      exact tidy.kept q old found'
    · exact tidy.kept q found h
  · rw [size]
    exact tidy.slots id name q h
  · rw [size]
    exact tidy.shared key q h
  · exact grown.isPlain (tidy.known key q told h same) (Shared.isNamed_of_content? same)
  · rw [contents]
    exact tidy.named key q told h same
  · exact grown.isPlain (tidy.classes id q h) rfl
  · exact grown.isStyle (tidy.styles q h)

/-- Of a named value an attribute may be put. -/
theorem Prepared.putAttribute (tidy : s.Tidy) (lt : r < s.cells.size) (named : (s.content r).isNamed = true)
    {name : String} {part : Ref} (there : part < s.cells.size) :
    Prepared (fun s' _ => s'.content r = s.content r ∧ r < s'.cells.size) s (SessionM.putAttribute r name part) := by
  obtain ⟨cell, found⟩ : ∃ cell, s.cells[r]? = some cell := ⟨_, Array.getElem?_eq_getElem lt⟩
  have noMapping : (ownMapping? r).runIn s = (.ok none, s) := by
    rw [ownMapping?, runIn_get_bind, found]
    simp only [Option.bind_some, tidy.kept r cell found]
    rfl
  have put : Prepared (fun s' _ => s'.content r = s.content r ∧ r < s'.cells.size) s
      (SessionM.modifyCell r fun cell => { cell with attributes := cell.attributes.put name part }) := by
    refine Prepared.modifyCell tidy lt named (fun _ => rfl) (fun _ => rfl) fun old found' q member => ?_
    simp only [Cell.refs, List.mem_append, List.mem_map] at member
    obtain (ofContent | ⟨entry, ofTable, rfl⟩) | ofMapping := member
    · exact tidy.cells r old found' q (by simp [Cell.refs, ofContent])
    · obtain rfl | ofTable := Table.eq_or_mem_of_mem_put ofTable
      · exact there
      · exact tidy.cells r old found' _ (by
          simp only [Cell.refs, List.mem_append, List.mem_map]
          exact .inl (.inr ⟨entry, ofTable, rfl⟩))
    · exact tidy.cells r old found' q (by simp [Cell.refs, ofMapping])
  unfold Prepared
  rw [SessionM.putAttribute, runIn_bind_of_ok noMapping]
  exact put

end NamedValues

end SessionM

end FilterAlgebra
