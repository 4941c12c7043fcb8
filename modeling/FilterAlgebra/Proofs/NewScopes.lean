import FilterAlgebra.Blueprint
import FilterAlgebra.Proofs.AdapterObjects
import FilterAlgebra.Proofs.Preparation

/-!
# Making scopes

A scope is there before it has its members: an empty object is made first and then given
its attributes one by one. So a session does not just grow while a scope is made. But
what is changed was not there before, and from the point of view of the session in which
the scope was asked for nothing but growth is left (`Session.Refills`). With this a
bundle made of objects that act as capabilities is a bundle (`newBundle_makes`), and a
set of adapters made for them is one (`newAdapterSet_makes`).

In the end stands what building a filter comes to: a session that builds one in a new
scope does what the algebra does in the scope that the new one stands for
(`buildIn_plain_simulates`, `buildIn_unified_simulates`).
-/

set_option autoImplicit false

namespace FilterAlgebra

/-- Whether objects of a content are set up after they are made. None of them is known by its content. -/
def Content.isFillable : Content → Bool
  | .object id => id ≠ StandingClass.style.id
  | .dict _ => true
  | _ => false

/-- What is known by its kind is not set up. -/
theorem Shared.isFillable_of_content? {key : Shared} {content : Content} (told : key.content? = some content) :
    content.isFillable = false := by
  cases key <;> simp only [content?, Option.some.injEq, reduceCtorEq] at told <;> subst told <;> rfl

namespace Session

/-- A session in which a cell is another one. -/
def withCell (s : Session) (r : Ref) (cell : Cell) : Session :=
  { s with cells := s.cells.modify r fun _ => cell }

/-- An object that is new since an earlier session is given another cell, and no other object changes. -/
structure Refills (s s₁ s₂ : Session) (r : Ref) (cell : Cell) : Prop where
  grows : s.GrowsTo s₂ []
  size : s₂.cells.size = s₁.cells.size
  shared : ∀ key, s₂.shared? key = s₁.shared? key
  cell_eq : s₂.cells[r]? = some cell
  others : ∀ q ≠ r, s₂.cells[q]? = s₁.cells[q]?

variable {s s₁ s₂ : Session} {r q : Ref} {n : Nat} {cell : Cell}

/-- A new object may be given another cell that refers to objects that are there. -/
theorem GrowsTo.refills (order : s.InOrder) (grows : s.GrowsTo s₁ []) (new : s.cells.size ≤ r)
    (lt : r < s₁.cells.size) (fillable : (s₁.content r).isFillable = true)
    (refs : ∀ q ∈ cell.refs, q < s₁.cells.size) : s.Refills s₁ (s₁.withCell r cell) r cell := by
  have size : (s₁.withCell r cell).cells.size = s₁.cells.size := Array.size_modify
  have cells : ∀ q, (s₁.withCell r cell).cells[q]? =
      if r = q then s₁.cells[q]?.map fun _ => cell else s₁.cells[q]? := fun q => Array.getElem?_modify
  have cell_eq : (s₁.withCell r cell).cells[r]? = some cell := by
    rw [cells, if_pos rfl, Array.getElem?_eq_getElem lt]
    rfl
  have others : ∀ q ≠ r, (s₁.withCell r cell).cells[q]? = s₁.cells[q]? := fun q other => by
    rw [cells, if_neg other.symm]
  -- nothing that is known by its content is refilled
  have kept : ∀ q, (s₁.content q).isFillable = false → (s₁.withCell r cell).cells[q]? = s₁.cells[q]? := by
    intro q unfillable
    refine others q ?_
    rintro rfl
    rw [fillable] at unfillable
    cases unfillable
  have plain : ∀ q content, s₁.IsPlain q content → content.isFillable = false →
      (s₁.withCell r cell).IsPlain q content := fun q content isPlain unfillable =>
    (kept q (isPlain.content_eq ▸ unfillable)).trans isPlain
  have extended : s.ExtendedBy (s₁.withCell r cell) := by
    refine ⟨grows.extended.size.trans size.ge, fun q there => ?_, grows.extended.shared, fun id q known => ?_,
      grows.extended.hierarchy, grows.extended.names⟩
    · rw [others q (there.trans_le new).ne, grows.extended.cells q there]
    · exact (grows.extended.types id q known).imp_right fun isType => plain q _ isType rfl
  have closed : (s₁.withCell r cell).Closed := by
    refine ⟨fun q found h p member => ?_, fun id name q h => ?_, fun key q h => ?_, grows.order.collected⟩
    · rw [size]
      by_cases same : q = r
      · subst same
        obtain rfl : cell = found := by simpa [cell_eq] using h
        exact refs p member
      · rw [others q same] at h
        exact grows.order.cells q found h p member
    · rw [size]
      exact grows.order.slots id name q h
    · rw [size]
      exact grows.order.shared key q h
  refine ⟨⟨extended, order.extended extended closed (fun key q content h told => ?_) (fun id q h => ?_)
    fun q h => ?_, grows.added⟩, size, fun _ => rfl, cell_eq, others⟩
  · exact plain q content (grows.order.known key q content h told) (Shared.isFillable_of_content? told)
  · obtain ⟨content, kind⟩ := grows.order.classes id q h
    have same := kept q (content ▸ rfl)
    unfold Session.content Session.below? at *
    rw [same]
    exact ⟨content, kind⟩
  · obtain ⟨mark, doubled, object, isMark, isDoubled⟩ := grows.order.styles q h
    have unfillable : (s₁.content q).isFillable = false := by
      rw [object.content_eq]
      simp [Content.isFillable]
    exact ⟨mark, doubled, (kept q unfillable).trans object, plain mark _ isMark rfl, plain doubled _ isDoubled rfl⟩

/-- A plain object stays as it is when one of another content is given another cell. -/
theorem Refills.isPlain {content : Content} (refills : s.Refills s₁ s₂ r cell) (h : s₁.IsPlain q content)
    (different : s₁.content r ≠ content) : s₂.IsPlain q content := by
  refine (refills.others q ?_).trans h
  rintro rfl
  exact different h.content_eq

/-- A class stands before an object that acted as a capability for it in an earlier session. -/
def Files (s₀ s : Session) (n : Nat) (entry : Ref × Ref) (c : Capability) : Prop :=
  s.IsType entry.1 c.type ∧ s₀.Acts n entry.2 c

/-- What acted as a capability does so still. -/
theorem Files.serves {s₀ : Session} {entry : Ref × Ref} {c : Capability} (h : Files s₀ s n entry c)
    (extended : s₀.ExtendedBy s) : s.Serves n entry c :=
  ⟨h.1, h.2.extended extended⟩

/-- Where the same classes are known the class for a type is the same. -/
theorem IsType.eq_of_shared {t : SemanticType} (h : s₁.IsType r t) (h' : s₂.IsType q t)
    (shared : ∀ key, s₂.shared? key = s₁.shared? key) : r = q := by
  obtain ⟨id, isClass, rfl⟩ := h
  obtain ⟨id', isClass', same⟩ := h'
  obtain rfl : id' = id := by
    have numbers := congrArg Hierarchy.classId? same
    rw [classId?_classType, classId?_classType] at numbers
    exact Option.some.inj numbers
  exact Option.some.inj (isClass.known.symm.trans ((shared _).symm.trans isClass'.known))

/-- A class goes on standing before a capability when an object is given another cell. -/
theorem Files.refilled {s₀ : Session} {entry : Ref × Ref} {c : Capability} (h : Files s₀ s₁ n entry c)
    (grows : s₀.GrowsTo s₂ []) (shared : ∀ key, s₂.shared? key = s₁.shared? key) : Files s₀ s₂ n entry c := by
  obtain ⟨q, -, isType⟩ := h.2.typed s₂ grows.extended grows.order
  have same := h.1.eq_of_shared isType shared
  exact ⟨same ▸ isType, h.2⟩

/-- An object lists others: it is a tuple or a list of them. -/
def Lists (s : Session) (r : Ref) (items : List Ref) : Prop :=
  s.IsPlain r (.tuple items) ∨ s.IsPlain r (.list items)

/-- What lists others goes on listing them. -/
theorem Lists.extended {items : List Ref} (h : s.Lists r items) (extended : s.ExtendedBy s₁) : s₁.Lists r items :=
  h.imp (·.extended extended) (·.extended extended)

/-- An object acts as a capability in both designs: it also makes the raw adapter for itself. -/
structure ActsUnified (s : Session) (n : Nat) (r : Ref) (c : Capability) : Prop extends s.Acts n r c where
  unifies : ∀ s' m, s.ExtendedBy s' → s'.InOrder → n ≤ m →
    SessionM.Makes (fun s'' q => s''.ActsAs (n + 2) q (.raw c)) s' (SessionM.request (SessionM.callWithin m) r .unify [])

/-- An object goes on acting as a capability in both designs. -/
theorem ActsUnified.extended {c : Capability} (h : s.ActsUnified n r c) (extended : s.ExtendedBy s₁) :
    s₁.ActsUnified n r c where
  toActs := h.toActs.extended extended
  unifies s' m extended' := h.unifies s' m (extended.trans extended')

/-- An object is given as the style of new capabilities, or none is and they have the default style. -/
def StyleGiven (s : Session) : Option Ref → QuoteStyle → Prop
  | some r, style => s.IsStyle r style
  | none, style => style = {}

/-- A style goes on being given. -/
theorem StyleGiven.extended {style? : Option Ref} {style : QuoteStyle} (h : s.StyleGiven style? style)
    (extended : s.ExtendedBy s₁) : s₁.StyleGiven style? style := by
  cases style? with
  | some r => exact IsStyle.extended h extended
  | none => exact h

/-- What a filter is built over, be it given or not, acts as the capabilities of a bundle. -/
def BuildsOver (s : Session) (n : Nat) (capabilities? style? : Option Ref) (bundle : Bundle) : Prop :=
  SessionM.Makes (fun s' q => ∃ members, s'.Lists q members ∧
    List.Forall₂ (s'.ActsUnified n) members bundle.capabilities) s (SessionM.capabilitiesFor capabilities? style?)

end Session

namespace SessionM

open Session

variable {s s₁ s₂ : Session} {r q : Ref} {n m : Nat}

section Filling

/-- An object is changed in its cell. -/
theorem runIn_modifyCell {old : Cell} (found : s.cells[r]? = some old) (change : Cell → Cell) :
    (modifyCell r change).runIn s = (.ok (), s.withCell r (change old)) := by
  have same : s.cells.modify r change = s.cells.modify r fun _ => change old := by
    refine Array.ext_getElem? fun i => ?_
    rw [Array.getElem?_modify, Array.getElem?_modify]
    by_cases at_r : r = i
    · subst at_r
      simp [found]
    · simp [at_r]
  show (_, ({ s with cells := s.cells.modify r change } : Session)) = _
  rw [same]
  rfl

/-- A new object is given an attribute. -/
theorem putAttribute_refills {c : StandingClass} {attributes : Table Ref} {part : Ref} (name : String)
    (order : s.InOrder) (grows : s.GrowsTo s₁ []) (new : s.cells.size ≤ r) (object : s₁.IsObject r c attributes)
    (noStyle : c.id ≠ StandingClass.style.id) (there : part < s₁.cells.size) :
    ∃ s₂, (putAttribute r name part).runIn s₁ = (.ok (), s₂) ∧
      s.Refills s₁ s₂ r { content := .object c.id, attributes := attributes.put name part } := by
  have noMapping : (ownMapping? r).runIn s₁ = (.ok none, s₁) := by
    rw [ownMapping?, runIn_get_bind, object]
    rfl
  have fillable : (s₁.content r).isFillable = true := by
    rw [object.content_eq]
    simpa [Content.isFillable] using noStyle
  refine ⟨_, (runIn_bind_of_ok noMapping _).trans (runIn_modifyCell object _),
    grows.refills order new object.lt fillable fun q member => ?_⟩
  simp only [Cell.refs, Content.refs, List.nil_append, Option.toList_none, List.append_nil, List.mem_map] at member
  obtain ⟨entry, ofTable, rfl⟩ := member
  obtain rfl | ofTable := Table.eq_or_mem_of_mem_put ofTable
  · exact there
  · refine grows.order.cells r _ object _ ?_
    simp only [Cell.refs, Content.refs, List.nil_append, Option.toList_none, List.append_nil, List.mem_map]
    exact ⟨entry, ofTable, rfl⟩

/-- A new mapping is given its entries. -/
theorem setContent_refills {entries entries' : List (Ref × Ref)} (order : s.InOrder) (grows : s.GrowsTo s₁ [])
    (new : s.cells.size ≤ r) (isDict : s₁.IsPlain r (.dict entries))
    (there : ∀ entry ∈ entries', entry.1 < s₁.cells.size ∧ entry.2 < s₁.cells.size) :
    ∃ s₂, (setContent r (.dict entries')).runIn s₁ = (.ok (), s₂) ∧
      s.Refills s₁ s₂ r { content := .dict entries' } := by
  have fillable : (s₁.content r).isFillable = true := by
    rw [isDict.content_eq]
    rfl
  refine ⟨_, runIn_modifyCell isDict _, grows.refills order new isDict.lt fillable fun q member => ?_⟩
  simp only [Cell.refs, Content.refs, List.map_nil, List.append_nil, Option.toList_none, List.mem_append,
    List.mem_map] at member
  obtain ⟨entry, ofEntries, rfl⟩ | ⟨entry, ofEntries, rfl⟩ := member
  · exact (there entry ofEntries).1
  · exact (there entry ofEntries).2

end Filling

section Parts

/-- An object for a tuple is made, unless there is one. -/
theorem newTuple_makes (order : s.InOrder) {items : List Ref} (there : ∀ q ∈ items, q < s.cells.size) :
    Makes (fun s' q => s'.IsPlain q (.tuple items)) s (newTuple items) := by
  unfold newTuple
  cases items with
  | nil => exact Makes.sharedObject order rfl (by simp [Content.refs])
  | cons => exact Makes.newPlain order there

/-- What is listed is read off the session. -/
theorem runIn_itemsOf {items : List Ref} (h : s.Lists r items) : (itemsOf r).runIn s = (.ok items, s) := by
  rw [itemsOf, runIn_get_bind]
  obtain isPlain | isPlain := h <;> (rw [isPlain.content_eq]; rfl)

/-- What lists others is taken as a tuple. -/
theorem tupleOf_makes (order : s.InOrder) {items : List Ref} (h : s.Lists r items) :
    Makes (fun s' q => s'.IsPlain q (.tuple items)) s (tupleOf r) := by
  refine Makes.read (runIn_get s) ?_
  obtain isTuple | isList := id h
  · rw [isTuple.content_eq, isTuple.below?_eq]
    exact Makes.pure order isTuple
  · rw [isList.content_eq]
    refine Makes.read (runIn_itemsOf h) (newTuple_makes order fun q member => ?_)
    exact order.cells r _ isList q (by simpa [Cell.refs, Content.refs] using member)

end Parts

section Bundles

/-- A class that no entry has for its key is put at the end. -/
theorem putEntry_classes {t : SemanticType} (key : s.IsType r t) {entries : List (Ref × Ref)}
    (classes : ∀ entry ∈ entries, ∃ u, s.IsType entry.1 u) (new : (entries.find? fun entry => entry.1 == r) = none) :
    s.putEntry r q entries = .ok (entries ++ [(r, q)]) := by
  induction entries with
  | nil => rfl
  | cons entry rest ih =>
    obtain ⟨k, v⟩ := entry
    obtain ⟨_, id', isClass, -⟩ := classes (k, v) (by simp)
    obtain ⟨id, isKey, -⟩ := id key
    have different : (k == r) = false := by
      simpa using (List.find?_eq_none.mp new) (k, v) (by simp)
    have later := ih (fun entry member => classes entry (List.mem_cons_of_mem _ member))
      (by simpa [List.find?_cons, different] using new)
    rw [putEntry, Equality.orSame, if_neg (by simpa using different), isClass.equal_eq isKey, different, later]
    rfl

/-- A member is put under its class if it is the first of its type. -/
theorem runIn_addMember {c : Capability} {entries : List (Ref × Ref)} {firsts : List Capability}
    (extended : s.ExtendedBy s₁) (order : s₁.InOrder) (acts : s.Acts n r c)
    (files : List.Forall₂ (Files s s₁ n) entries firsts) :
    ∃ entries', (addMember entries r).runIn s₁ = (.ok entries', s₁) ∧ List.Forall₂ (Files s s₁ n) entries'
      (if (firsts.find? (·.type = c.type)).isSome then firsts else firsts ++ [c]) := by
  obtain ⟨q, shown, isType⟩ := acts.typed s₁ extended order
  have classes : ∀ entry ∈ entries, ∃ u, s₁.IsType entry.1 u :=
    ((List.forall₂_and_left _ _).mp (files.imp fun _ c h => ⟨⟨c.type, h.1⟩, h⟩)).1
  have served := Session.find?_serves isType (files.imp fun _ _ h => h.serves extended)
  rw [addMember, runIn_bind_of_ok shown, runIn_get_bind, Session.find?_classes order isType classes]
  cases found : entries.find? fun entry => entry.1 == q with
  | some entry =>
    simp only [found, Option.map_some] at served
    cases known : firsts.find? (·.type = c.type) with
    | none => simp [known] at served
    | some first => exact ⟨entries, rfl, by simpa using files⟩
  | none =>
    simp only [found, Option.map_none] at served
    cases known : firsts.find? (·.type = c.type) with
    | some first => simp [known] at served
    | none =>
      refine ⟨entries ++ [(q, r)], ?_, by simpa using List.rel_append files (.cons ⟨isType, acts⟩ .nil)⟩
      obtain ⟨id, isClass, -⟩ := id isType
      have put : s₁.putHashable q r entries = .ok (entries ++ [(q, r)]) := by
        rw [Session.putHashable, isClass.checkHashable_eq order]
        exact putEntry_classes isType classes found
      show (SessionM.ofFault _).runIn s₁ = _
      rw [put]
      rfl

/-- Among the members of a bundle the first one of each type is kept under its class. -/
theorem runIn_addMembers {members : List Ref} {capabilities : List Capability} (extended : s.ExtendedBy s₁)
    (order : s₁.InOrder) (act : List.Forall₂ (s.Acts n) members capabilities) {entries : List (Ref × Ref)}
    {firsts : List Capability} (files : List.Forall₂ (Files s s₁ n) entries firsts) :
    ∃ entries' firsts', (members.foldlM addMember entries).runIn s₁ = (.ok entries', s₁) ∧
      List.Forall₂ (Files s s₁ n) entries' firsts' ∧
      ∀ type, firsts'.find? (·.type = type) =
        (firsts.find? (·.type = type)).or (capabilities.find? (·.type = type)) := by
  induction act generalizing entries firsts with
  | nil => exact ⟨entries, firsts, rfl, files, fun type => (Option.or_none).symm⟩
  | @cons member c members capabilities acts _ ih =>
    obtain ⟨entries₁, added, files₁⟩ := runIn_addMember extended order acts files
    obtain ⟨entries₂, firsts₂, rest, files₂, first⟩ := ih files₁
    refine ⟨entries₂, firsts₂, ?_, files₂, fun type => (first type).trans ?_⟩
    · rw [List.foldlM_cons, runIn_bind_of_ok added, rest]
    · rw [List.find?_cons]
      by_cases same : c.type = type
      · subst same
        cases known : firsts.find? (·.type = c.type) <;> simp [known]
      · cases known : firsts.find? (·.type = c.type) <;> simp [same]

/-- A new object without attributes is the last one. -/
theorem newEmpty_grows (order : s.InOrder) (c : StandingClass) :
    s.GrowsTo (s.withObject { content := .object c.id }) [] ∧
      (s.withObject { content := .object c.id }).IsObject s.cells.size c [] :=
  ⟨⟨s.extendedBy_withObject _, order.withObject (by simp [Cell.refs, Content.refs]), by simp [withObject]⟩,
    Session.cells_withObject_new _⟩

/-- A new object is set up as a bundle of objects that act as capabilities. -/
theorem setUpBundle_makes {members : List Ref} {bundle : Bundle} (order : s.InOrder) (grows : s.GrowsTo s₁ [])
    (new : s.cells.size ≤ q) (object : s₁.IsObject q .bundle []) (given : s₁.Lists r members)
    (act : List.Forall₂ (s.Acts n) members bundle.capabilities) :
    ∃ s₂, (setUpBundle q r).runIn s₁ = (.ok (), s₂) ∧ s.GrowsTo s₂ [] ∧ s₂.IsBundle n q bundle := by
  obtain ⟨m, s₂, tupled, grows₂, isTuple₂⟩ := tupleOf_makes grows.order given
  have object₂ := object.extended grows₂.extended
  obtain ⟨s₃, put₃, refills₃⟩ := putAttribute_refills Attribute.capabilities order (growsTo_trans grows grows₂)
    new object₂ (by decide) isTuple₂.lt
  have isTuple₃ := refills₃.isPlain isTuple₂ (by simp [object₂.content_eq])
  -- the mapping is made empty and filled in the end
  have grows₄ : s₃.GrowsTo (s₃.withObject { content := .dict [] }) [] :=
    ⟨s₃.extendedBy_withObject _, refills₃.grows.order.withObject (by simp [Cell.refs, Content.refs]),
      by simp [withObject]⟩
  have isDict₄ : (s₃.withObject { content := .dict [] }).IsPlain s₃.cells.size (.dict []) :=
    Session.cells_withObject_new _
  have object₃ : s₃.IsObject q .bundle [(Attribute.capabilities, m)] := refills₃.cell_eq
  have object₄ := object₃.extended grows₄.extended
  obtain ⟨s₅, put₅, refills₅⟩ := putAttribute_refills Attribute.byType order (growsTo_trans refills₃.grows grows₄)
    new object₄ (by decide) isDict₄.lt
  have isDict₅ := refills₅.isPlain isDict₄ (by simp [object₄.content_eq])
  have isTuple₅ := refills₅.isPlain (isTuple₃.extended grows₄.extended) (by simp [object₄.content_eq])
  obtain ⟨entries, firsts, run, files, first⟩ :=
    runIn_addMembers refills₅.grows.extended refills₅.grows.order act .nil
  have there : ∀ entry ∈ entries, entry.1 < s₅.cells.size ∧ entry.2 < s₅.cells.size :=
    ((List.forall₂_and_left _ _).mp (files.imp fun _ _ h =>
      ⟨⟨h.1.lt, h.2.lt.trans_le refills₅.grows.extended.size⟩, h⟩)).1
  have new₅ : s.cells.size ≤ s₃.cells.size := refills₃.grows.extended.size
  obtain ⟨s₆, set₆, refills₆⟩ := setContent_refills order refills₅.grows new₅ isDict₅ there
  have isTuple₆ := refills₆.isPlain isTuple₅ (by simp [isDict₅.content_eq])
  have object₆ : s₆.IsObject q .bundle [(Attribute.capabilities, m), (Attribute.byType, s₃.cells.size)] :=
    (refills₆.others q object₃.lt.ne).trans refills₅.cell_eq
  refine ⟨s₆, ?_, refills₆.grows, m, _, members, entries, firsts, object₆, isTuple₆,
    act.imp fun _ _ h => h.extended refills₆.grows.extended, refills₆.cell_eq,
    files.imp fun _ _ h => (h.refilled refills₆.grows refills₆.shared).serves refills₆.grows.extended,
    fun type => (first type).trans (by simp [Bundle.capability?])⟩
  rw [setUpBundle, runIn_bind_of_ok tupled, runIn_bind_of_ok put₃, runIn_bind_of_ok (runIn_newObject _ _ s₃),
    runIn_bind_of_ok put₅, runIn_bind_of_ok (runIn_itemsOf (.inl isTuple₅)), membersByType, runIn_bind_of_ok run,
    set₆]

/-- A bundle made of objects that act as capabilities is one. -/
theorem newBundle_makes {members : List Ref} {bundle : Bundle} (order : s.InOrder) (given : s.Lists r members)
    (act : List.Forall₂ (s.Acts n) members bundle.capabilities) :
    Makes (fun s' q => s'.IsBundle n q bundle) s (newBundle r) := by
  obtain ⟨grows, object⟩ := newEmpty_grows order .bundle
  have given₁ := given.extended grows.extended
  obtain ⟨s₂, setUp, grows₂, isBundle⟩ := setUpBundle_makes order grows (Nat.le_refl _) object given₁ act
  refine ⟨s.cells.size, s₂, ?_, grows₂, isBundle⟩
  rw [newBundle, runIn_bind_of_ok (runIn_newObject _ _ s), runIn_bind_of_ok setUp]
  rfl

end Bundles

section Adapters

/-- A raw adapter made for an object acts as one of the capability that the object acts as. -/
theorem newRawAdapter_makes {c : Capability} (order : s.InOrder) (acts : s.Acts n r c) :
    Makes (fun s' q => s'.ActsAs (n + 2) q (.raw c)) s (newRawAdapter r) := by
  obtain ⟨grows, object⟩ := newEmpty_grows order .rawAdapter
  have there := acts.lt.trans_le grows.extended.size
  obtain ⟨s₂, put₂, refills₂⟩ := putAttribute_refills Attribute.capability order grows (Nat.le_refl _) object
    (by decide) there
  have grows₂ := refills₂.grows
  obtain ⟨type, shown, isType⟩ := acts.typed s₂ grows₂.extended grows₂.order
  obtain ⟨s₃, put₃, refills₃⟩ := putAttribute_refills Attribute.target order grows₂ (Nat.le_refl _) refills₂.cell_eq
    (by decide) isType.lt
  have grows₃ := refills₃.grows
  obtain ⟨type', -, isType'⟩ := acts.typed s₃ grows₃.extended grows₃.order
  have isType₃ : s₃.IsType type c.type := isType.eq_of_shared isType' refills₃.shared ▸ isType'
  have acts₃ := acts.extended grows₃.extended
  refine ⟨s.cells.size, s₃, ?_, grows₃, rawAdapter_acts grows₃.order refills₃.cell_eq acts₃ isType₃⟩
  rw [newRawAdapter, runIn_bind_of_ok (runIn_newObject _ _ s), setUpRawAdapter, bind_assoc, runIn_bind_of_ok put₂,
    bind_assoc, runIn_bind_of_ok shown, runIn_bind_of_ok put₃]
  rfl

/-- An identity adapter made for a class acts as one of its type. -/
theorem newIdentityAdapter_makes {t : SemanticType} (order : s.InOrder) (isType : s.IsType r t) :
    Makes (fun s' q => s'.ActsAs (n + 2) q (.identity t)) s (newIdentityAdapter r) := by
  refine (Makes.newObject order ?_).imp ?_
  · intro q member
    obtain rfl : q = r := by simpa [Cell.refs, Content.refs] using member
    exact isType.lt
  · rintro s' q extended order' ⟨rfl, rfl⟩
    exact identityAdapter_acts order' (Session.cells_withObject_new _) (isType.extended extended order.toClosed)

end Adapters

end SessionM

namespace Session

/-- A capability of the catalogue acts as what it is in both designs. -/
theorem IsCapability.actsUnified {s : Session} {r : Ref} {n : Nat} {c : StandardCapability} (h : s.IsCapability r c) (enough : 7 ≤ n) :
    s.ActsUnified n r c.toCapability where
  toActs := h.acts enough
  unifies s' m extended order deep := by
    obtain ⟨k, rfl⟩ := Nat.exists_eq_add_of_le' (enough.trans deep)
    have h' := h.extended extended
    obtain ⟨attributes, object, lacks⟩ := h'.isObject
    obtain ⟨s₁, comesTo⟩ := SessionM.request_comesTo (n := k + 5) order .unify [] object
      (StandingClass.ofCapability_mem_asked c) (c.function?_ofCapability (by simp)) (lacks _ (by decide)) (by decide) rfl (Nat.le_refl 1) (Nat.le_refl 1)
    exact comesTo.makes (SessionM.newRawAdapter_makes comesTo.1.order ((h'.extended comesTo.1.extended).acts enough))

end Session

namespace SessionM

open Session

variable {s : Session} {r : Ref} {n m : Nat}

section Unifying

/-- The two adapters made for an object act as those of the capability that the object acts as. -/
theorem adaptersOf_makes {c : Capability} (order : s.InOrder) (acts : s.ActsUnified n r c) (deep : n ≤ m) :
    Makes (fun s' adapters => List.Forall₂ (s'.ActsAs (n + 2)) adapters [.raw c, .identity c.type]) s
      (adaptersOf (callWithin m) r) := by
  refine (acts.unifies s m (.refl s) order deep).bind fun s₁ raw extended₁ order₁ isRaw => ?_
  obtain ⟨type, shown, isType⟩ := acts.typed s₁ extended₁ order₁
  refine Makes.read shown ?_
  refine (newIdentityAdapter_makes (n := n) order₁ isType).bind fun s₂ identity extended₂ order₂ isIdentity => ?_
  exact Makes.pure order₂ (.cons (isRaw.extended extended₂) (.cons isIdentity .nil))

/-- The adapters made for some objects act as those of the capabilities that the objects act as. -/
theorem mapM_adaptersOf_makes {members : List Ref} {capabilities : List Capability} (order : s.InOrder)
    (act : List.Forall₂ (s.ActsUnified n) members capabilities) (deep : n ≤ m) :
    Makes (fun s' adapters => List.Forall₂ (s'.ActsAs (n + 2)) adapters.flatten
      (capabilities.flatMap fun c => [.raw c, .identity c.type])) s (members.mapM (adaptersOf (callWithin m))) := by
  induction members generalizing s capabilities with
  | nil =>
    cases act
    exact Makes.pure order .nil
  | cons member members ih =>
    cases act with
    | @cons _ c _ capabilities first others =>
      rw [List.mapM_cons]
      refine (adaptersOf_makes order first deep).bind fun s₁ adapters extended₁ order₁ made => ?_
      have others₁ := others.imp fun _ _ h => ActsUnified.extended h extended₁
      refine (ih order₁ others₁).bind fun s₂ rest extended₂ order₂ restMade => ?_
      refine Makes.pure order₂ ?_
      rw [List.flatten_cons, List.flatMap_cons]
      exact List.rel_append (made.imp fun _ _ h => h.extended extended₂) restMade

/-- The adapters made for objects that act as the capabilities of a bundle act as those of the bundle. -/
theorem unifiedAdapters_makes {members : List Ref} {bundle : Bundle} (order : s.InOrder) (given : s.Lists r members)
    (act : List.Forall₂ (s.ActsUnified n) members bundle.capabilities) (deep : n ≤ m) :
    Makes (fun s' q => ∃ adapters, s'.Lists q adapters ∧
      List.Forall₂ (s'.ActsAs (n + 2)) adapters (AdapterSet.ofBundle bundle).adapters) s
      (unifiedAdapters (callWithin m) r) := by
  refine Makes.read (runIn_itemsOf given) ?_
  refine (mapM_adaptersOf_makes order act deep).bind fun s₁ adapters _ order₁ made => ?_
  refine (truth_makes order₁).bind fun s₂ type extended₂ order₂ isType => ?_
  refine (newIdentityAdapter_makes (n := n) order₂ isType).bind fun s₃ last extended₃ order₃ isLast => ?_
  have all : List.Forall₂ (s₃.ActsAs (n + 2)) (adapters.flatten ++ [last]) (AdapterSet.ofBundle bundle).adapters :=
    List.rel_append (made.imp fun _ _ h => h.extended (extended₂.trans extended₃)) (.cons isLast .nil)
  have there : ∀ q ∈ adapters.flatten ++ [last], q < s₃.cells.size :=
    ((List.forall₂_and_left _ _).mp (all.imp fun _ _ h => ⟨h.lt, h⟩)).1
  refine (newTuple_makes order₃ there).imp fun s₄ q extended₄ _ isTuple => ?_
  exact ⟨_, .inl isTuple, all.imp fun _ _ h => h.extended extended₄⟩

/-- A set of adapters made of objects that act as adapters is one. -/
theorem newAdapterSet_makes {members : List Ref} {set : AdapterSet} (order : s.InOrder) (given : s.Lists r members)
    (act : List.Forall₂ (s.ActsAs n) members set.adapters) :
    Makes (fun s' q => s'.IsAdapterSet n q set) s (newAdapterSet r) := by
  obtain ⟨grows, object⟩ := newEmpty_grows order .adapterSet
  have given₁ := given.extended grows.extended
  obtain ⟨m, s₂, tupled, grows₂, isTuple₂⟩ := tupleOf_makes grows.order given₁
  have object₂ := object.extended grows₂.extended
  obtain ⟨s₃, put₃, refills₃⟩ := putAttribute_refills Attribute.adapters order (growsTo_trans grows grows₂)
    (Nat.le_refl _) object₂ (by decide) isTuple₂.lt
  have isTuple₃ := refills₃.isPlain isTuple₂ (by simp [object₂.content_eq])
  refine ⟨s.cells.size, s₃, ?_, refills₃.grows, m, members, refills₃.cell_eq, isTuple₃,
    act.imp fun _ _ h => h.extended refills₃.grows.extended⟩
  rw [newAdapterSet, runIn_bind_of_ok (runIn_newObject _ _ s), setUpAdapterSet, bind_assoc, runIn_bind_of_ok tupled,
    runIn_bind_of_ok put₃]
  rfl

end Unifying

section Defaults

/-- An object with attributes counts as true. -/
theorem runIn_truthOf_object {c : StandingClass} {attributes : Table Ref} (object : s.IsObject r c attributes) :
    (truthOf r).runIn s = (.ok true, s) := by
  have truth : (s.value r).truth = true := by
    rw [Session.value_eq_contentValue object.below?_eq]
    simp only [Snapshot.contentValue, object.content_eq]
    split <;> rfl
  rw [truthOf, runIn_get_bind, object.content_eq, ← truth]
  rfl

/-- Making the object for a simple value makes no default style. -/
theorem newSimple_makes {v : Value} (order : s.InOrder) (simple : v.isSimple = true) :
    Makes (fun s' q => s'.IsPlain q (.atom v) ∧ s'.shared? .defaultStyle = s.shared? .defaultStyle) s (newAtom v) := by
  obtain ⟨q, s₁, ends, grows, isPlain⟩ := newAtom_makes order fun _ known => Value.content?_of_isSimple simple known
  have unshared : ((newAtom v).runIn s).2.shared? .defaultStyle = s.shared? .defaultStyle := by
    unfold newAtom
    cases known : Shared.ofValue? v with
    | none => rfl
    | some key =>
      have different : key ≠ .defaultStyle := by
        rintro rfl
        cases Value.content?_of_isSimple simple known
      exact Prepared.shared?_sharedObject s (.atom v) different
  rw [ends] at unshared
  exact ⟨q, s₁, ends, grows, isPlain, unshared⟩

/-- A new style is an object with the two options. -/
theorem newStyleObject_makes (order : s.InOrder) (style : QuoteStyle) :
    Makes (fun s' q => s'.IsStyle q style ∧ s'.shared? .defaultStyle = s.shared? .defaultStyle) s
      (newStyleObject style) := by
  refine (newSimple_makes (v := .str style.mark.char.toString) order rfl).bind fun s₁ mark _ order₁ isMark => ?_
  refine (newSimple_makes (v := .bool style.doubled) order₁ rfl).bind fun s₂ doubled extended₂ order₂ isDoubled => ?_
  have isMark₂ := isMark.1.extended extended₂
  refine (Makes.newObject order₂ (by simp [Cell.refs, Content.refs, isMark₂.lt, isDoubled.1.lt])).imp ?_
  rintro s₃ q extended₃ - ⟨rfl, rfl⟩
  exact ⟨⟨mark, doubled, Session.cells_withObject_new _, isMark₂.extended extended₃, isDoubled.1.extended extended₃⟩,
    isDoubled.2.trans isMark.2⟩

/-- The style that is used where no other is given is the default. -/
theorem defaultStyle_makes (order : s.InOrder) : Makes (fun s' q => s'.IsStyle q {}) s defaultStyle := by
  refine Makes.read (runIn_get s) ?_
  cases known : s.shared? .defaultStyle with
  | some q => exact Makes.pure order (order.styles q known)
  | none =>
    refine (newStyleObject_makes order {}).bind fun s₁ q _ order₁ isStyle => ?_
    have unknown : s₁.shared? .defaultStyle = none := isStyle.2.trans known
    obtain ⟨mark, doubled, object, -⟩ := id isStyle.1
    have extended : s₁.ExtendedBy (s₁.withShared .defaultStyle q) := Session.extendedBy_withShared unknown (by simp)
    have order₂ : (s₁.withShared .defaultStyle q).InOrder :=
      order₁.withShared unknown object.lt (by simp) (by simp [Shared.content?]) fun _ => isStyle.1
    exact ⟨q, _, rfl, ⟨extended, order₂, by simp⟩, isStyle.1.extended extended⟩

/-- New capabilities get the style that is given. -/
theorem styleFor_makes {style? : Option Ref} {style : QuoteStyle} (order : s.InOrder)
    (given : s.StyleGiven style? style) : Makes (fun s' q => s'.IsStyle q style) s (styleFor style?) := by
  cases style? with
  | some r =>
    obtain ⟨mark, doubled, object, -⟩ := id given
    exact Makes.read (runIn_truthOf_object object) (Makes.pure order given)
  | none =>
    obtain rfl : style = {} := given
    exact defaultStyle_makes order

/-- A capability for integers needs no style. -/
theorem newInteger_makes (order : s.InOrder) (style? : Option Ref) :
    Makes (fun s' q => s'.IsCapability q .integer) s (newCapability .integer style?) := by
  refine (Makes.newObject order (by simp [Cell.refs, Content.refs])).imp ?_
  rintro s' q - - ⟨rfl, rfl⟩
  exact Session.cells_withObject_new _

/-- A capability for texts gets the style that is given. -/
theorem newTextCapability_makes {style? : Option Ref} {style : QuoteStyle} (order : s.InOrder)
    (given : s.StyleGiven style? style) :
    Makes (fun s' q => s'.IsCapability q (.text style)) s (newCapability (.text {}) style?) := by
  refine (styleFor_makes order given).bind fun s₁ q extended₁ order₁ isStyle => ?_
  obtain ⟨mark, doubled, object, -⟩ := id isStyle
  refine (Makes.newObject order₁ (by simp [Cell.refs, Content.refs, object.lt])).imp ?_
  rintro s₂ r extended₂ - ⟨rfl, rfl⟩
  exact ⟨q, Session.cells_withObject_new _, isStyle.extended extended₂⟩

/-- The capabilities for integers and for texts are made for filters for which none are given. -/
theorem newDefaults_makes {style? : Option Ref} {style : QuoteStyle} (order : s.InOrder)
    (given : s.StyleGiven style? style) :
    Makes (fun s' q => ∃ members, s'.Lists q members ∧
      List.Forall₂ s'.IsCapability members (defaultCapabilities style)) s (newDefaults style?) := by
  show Makes _ s (do newTuple (← [StandardCapability.integer, .text {}].mapM (newCapability · style?)))
  simp only [List.mapM_cons, List.mapM_nil, bind_assoc, pure_bind]
  refine (newInteger_makes order style?).bind fun s₁ first extended₁ order₁ isFirst => ?_
  refine (newTextCapability_makes order₁ (given.extended extended₁)).bind fun s₂ second extended₂ order₂ isSecond => ?_
  have isFirst₂ := isFirst.extended extended₂
  have there : ∀ q ∈ [first, second], q < s₂.cells.size := by
    obtain ⟨_, firstObject, -⟩ := isFirst₂.isObject
    obtain ⟨_, secondObject, -⟩ := isSecond.isObject
    simpa using ⟨firstObject.lt, secondObject.lt⟩
  refine (newTuple_makes order₂ there).imp fun s₃ q extended₃ _ isTuple => ?_
  exact ⟨_, .inl isTuple, .cons (isFirst₂.extended extended₃) (.cons (isSecond.extended extended₃) .nil)⟩

/-- A filter for which no capabilities are given is built over the defaults. -/
theorem buildsOver_defaults {style? : Option Ref} {style : QuoteStyle} (order : s.InOrder)
    (given : s.StyleGiven style? style) (enough : 7 ≤ n) : s.BuildsOver n none style? (Bundle.default style) := by
  refine (newDefaults_makes order given).imp fun s₁ q _ _ made => ?_
  obtain ⟨members, lists, are⟩ := made
  refine ⟨members, lists, ?_⟩
  show List.Forall₂ _ _ (List.map _ _)
  exact List.forall₂_map_right_iff.mpr (are.imp fun _ _ h => h.actsUnified enough)

/-- A filter is built over the capabilities that are given. -/
theorem buildsOver_given {style? : Option Ref} {members : List Ref} {bundle : Bundle} (order : s.InOrder)
    (lists : s.Lists r members) (act : List.Forall₂ (s.ActsUnified n) members bundle.capabilities) :
    s.BuildsOver n (some r) style? bundle := by
  have present : s.isNone r = false := by
    obtain isPlain | isPlain := lists <;> simp [Session.isNone, isPlain.content_eq]
  refine Makes.read (runIn_get s) ?_
  rw [present]
  exact Makes.pure order ⟨members, lists, act⟩

end Defaults

section Builds

variable {capabilities? style? : Option Ref} {receiver : Ref} {bundle : Bundle}
  {builder : Ref → Ref → SessionM Ref}

/-- A filter built in a new bundle is what the algebra builds in the bundle, whatever the builder does
there that is the same on objects and on values. -/
theorem buildIn_plain_simulates {built : Bundle → Traced Value} {call : Caller} (deep : n ≤ m)
    (based : s.BuildsOver n capabilities? style? bundle)
    (same : ∀ s' scope, s.ExtendedBy s' → s'.InOrder → s'.IsBundle m scope bundle →
      Simulates Session.Stands s' (builder scope receiver) (built bundle)) :
    Simulates Session.Stands s (buildIn call .plain receiver capabilities? style? builder) (bundle.build built) := by
  refine Simulates.made based fun s₁ q extended₁ order₁ given => ?_
  obtain ⟨members, lists, act⟩ := given
  refine Simulates.made (newBundle_makes order₁ lists (act.imp fun _ _ h => h.toActs.mono deep))
    fun s₂ scope extended₂ order₂ isBundle => ?_
  obtain ⟨m, d, members', _, _, object, isTuple, act', -⟩ := id isBundle
  refine Simulates.read (runIn_membersOf object (by decide) rfl isTuple) ?_
  rw [act'.length_eq]
  refine buildFilter_simulates order₂ _ fun s₃ extended₃ order₃ => ?_
  have isBundle₃ := isBundle.extended extended₃ order₂.toClosed
  exact same s₃ scope (extended₁.trans (extended₂.trans extended₃)) order₃ isBundle₃

/-- A filter built in a new set of adapters is what the algebra builds in the adapters of the bundle. -/
theorem buildIn_unified_simulates {built : AdapterSet → Traced Value} (deep : n ≤ m)
    (based : s.BuildsOver n capabilities? style? bundle)
    (same : ∀ s' scope, s.ExtendedBy s' → s'.InOrder →
      s'.IsAdapterSet (n + 2) scope (AdapterSet.ofBundle bundle) →
      Simulates Session.Stands s' (builder scope receiver) (built (AdapterSet.ofBundle bundle))) :
    Simulates Session.Stands s (buildIn (callWithin m) .unified receiver capabilities? style? builder)
      ((AdapterSet.ofBundle bundle).build built) := by
  refine Simulates.made based fun s₁ q extended₁ order₁ given => ?_
  obtain ⟨members, lists, act⟩ := given
  refine Simulates.made (unifiedAdapters_makes order₁ lists act deep) fun s₂ adapters extended₂ order₂ listed => ?_
  obtain ⟨members', lists', act'⟩ := listed
  refine Simulates.made (newAdapterSet_makes order₂ lists' act') fun s₃ scope extended₃ order₃ isSet => ?_
  obtain ⟨m, members'', object, isTuple, act''⟩ := id isSet
  refine Simulates.read (runIn_membersOf object (by decide) rfl isTuple) ?_
  rw [act''.length_eq]
  refine buildFilter_simulates order₃ _ fun s₄ extended₄ order₄ => ?_
  have extended := extended₁.trans (extended₂.trans (extended₃.trans extended₄))
  exact same s₄ scope extended order₄ (isSet.extended extended₄)

end Builds

end SessionM

end FilterAlgebra
