import FilterAlgebra.Session.Snapshot
import Mathlib.Data.Finset.Card
import Mathlib.Data.Finset.Range

/-!
# Snapshots stay as they are

A session grows while its steps make new objects, and the value that an object is at the
moment is read off the cells anew each time. `Session.ExtendedBy` says that a session
has only grown: its objects, classes and names are what they were. In a session in
which no reference leads nowhere, `Session.Closed`, growing changes no value:
`Session.ExtendedBy.value_eq`. Two things make the proof. What is read off the cells of
an object depends only on the cells it refers to, which is shown for each way of
reading; and the depth of a snapshot is never exhausted, because each object on the way
down is met once, so a deeper reading gives nothing else (`readWithin_eq`).
-/

set_option autoImplicit false

namespace FilterAlgebra

/-- The objects that a content refers to. -/
def Content.refs : Content → List Ref
  | list items | tuple items | collection _ items => items
  | dict entries | listing entries => entries.map (·.1) ++ entries.map (·.2)
  | method f self => [f, self]
  | boundMember _ self => [self]
  | containerOf c _ => [c]
  | _ => []

/-- The objects that a cell refers to. -/
def Cell.refs (cell : Cell) : List Ref :=
  cell.content.refs ++ cell.attributes.map (·.2) ++ cell.keptIn?.toList

namespace Session

/-- No reference leads nowhere, and each class with collected properties has the object for them. -/
structure Closed (s : Session) : Prop where
  cells : ∀ (r : Ref) (cell : Cell), s.cells[r]? = some cell → ∀ q ∈ cell.refs, q < s.cells.size
  slots : ∀ id name q, (name, Slot.declared q) ∈ s.hierarchy.own id → q < s.cells.size
  shared : ∀ key r, s.shared? key = some r → r < s.cells.size
  collected : ∀ id name properties, (name, Slot.collected properties) ∈ s.hierarchy.own id →
    (s.shared? (.collectedOf id)).isSome

/-- A session has only grown into another one: what it had is as it was, and an object for a class
that it had none for is a new one. -/
structure ExtendedBy (s s' : Session) : Prop where
  size : s.cells.size ≤ s'.cells.size
  cells : ∀ r < s.cells.size, s'.cells[r]? = s.cells[r]?
  shared : ∀ key r, s.shared? key = some r → s'.shared? key = some r
  types : ∀ id r, s'.shared? (.type id) = some r →
    s.shared? (.type id) = some r ∨ s'.cells[r]? = some { content := .type id }
  hierarchy : s'.hierarchy = s.hierarchy
  names : s'.names = s.names

namespace ExtendedBy

variable {s s' s'' : Session}

/-- A session extends itself. -/
theorem refl (s : Session) : s.ExtendedBy s :=
  ⟨le_refl _, fun _ _ => rfl, fun _ _ h => h, fun _ _ h => .inl h, rfl, rfl⟩

/-- Growing twice is growing. -/
theorem trans (first : s.ExtendedBy s') (second : s'.ExtendedBy s'') : s.ExtendedBy s'' where
  size := first.size.trans second.size
  cells r h := (second.cells r (h.trans_le first.size)).trans (first.cells r h)
  shared key r h := second.shared key r (first.shared key r h)
  types id r h := by
    obtain h | h := second.types id r h
    · refine (first.types id r h).imp_right fun cell => ?_
      have lt : r < s'.cells.size := (Array.getElem?_eq_some_iff.mp cell).1
      rw [second.cells r lt, cell]
    · exact .inr h
  hierarchy := second.hierarchy.trans first.hierarchy
  names := second.names.trans first.names

section Reading

variable (extended : s.ExtendedBy s')
include extended

/-- An object consists of what it consisted of. -/
theorem content_eq {r : Ref} (h : r < s.cells.size) : s'.content r = s.content r := by
  simp only [content, extended.cells r h]

/-- A text is the text that it was. -/
theorem text?_eq {r : Ref} (h : r < s.cells.size) : s'.text? r = s.text? r := by
  simp only [text?, extended.content_eq h]

/-- A text has the characters that it had. -/
theorem textOf_eq {r : Ref} (h : r < s.cells.size) : s'.textOf r = s.textOf r := by
  simp only [textOf, extended.text?_eq h]

/-- An object is of the class below that of its content that it was of. -/
theorem below?_eq {r : Ref} (h : r < s.cells.size) : s'.below? r = s.below? r := by
  simp only [below?, extended.cells r h]

/-- Entries have the names that they had. -/
theorem namedEntries_eq {entries : List (Ref × Ref)} (h : ∀ entry ∈ entries, entry.1 < s.cells.size) :
    s'.namedEntries entries = s.namedEntries entries := by
  refine List.filterMap_congr fun entry member => ?_
  simp only [extended.text?_eq (h entry member)]

/-- A class is in the lineages that it was in. -/
theorem isBelow_eq (id : ClassId) (c : StandingClass) : s'.isBelow id c = s.isBelow id c := by
  simp only [isBelow, extended.hierarchy]

/-- A class is an object of the class that it was one of. -/
theorem classOfClass_eq (id : ClassId) : s'.classOfClass id = s.classOfClass id := by
  simp only [classOfClass, classesOfClasses, extended.hierarchy]

/-- Objects of one content are of the class that they were of. -/
theorem classOfContent_eq (content : Content) : s'.classOfContent content = s.classOfContent content := by
  cases content with
  | type id => simp only [classOfContent, extended.classOfClass_eq]
  | _ => rfl

/-- An object is of the class that it was of. -/
theorem classOf_eq {r : Ref} (h : r < s.cells.size) : s'.classOf r = s.classOf r := by
  simp only [classOf, extended.below?_eq h, extended.content_eq h, extended.classOfContent_eq]

/-- The class of an object has the name that it had. -/
theorem className_eq {r : Ref} (h : r < s.cells.size) : s'.className r = s.className r := by
  simp only [className, extended.classOf_eq h, extended.hierarchy]

/-- A class has the name in messages that it had. -/
theorem classTypeName_eq (id : ClassId) : s'.classTypeName id = s.classTypeName id := by
  simp only [classTypeName, extended.hierarchy]

/-- The class of an object has the name in messages that it had. -/
theorem typeName_eq {r : Ref} (h : r < s.cells.size) : s'.typeName r = s.typeName r := by
  simp only [typeName, extended.classOf_eq h, extended.classTypeName_eq]

/-- An object is the holder that it was. -/
theorem holder_eq {r : Ref} (h : r < s.cells.size) : s'.holder r = s.holder r := by
  simp only [holder, extended.content_eq h, extended.classTypeName_eq, extended.typeName_eq h]

/-- The classes of a lineage keep what they kept. -/
theorem slot?_eq (id : ClassId) (name : String) : s'.slot? id name = s.slot? id name := by
  simp only [slot?, extended.hierarchy]

/-- Classes can have a say in the objects that they had one in. -/
theorem madeOf?_eq {r : Ref} (h : r < s.cells.size) : s'.madeOf? r = s.madeOf? r := by
  simp only [madeOf?, extended.content_eq h, extended.below?_eq h]

/-- The nodes are the nodes that there were. -/
theorem isNode_eq {r : Ref} (h : r < s.cells.size) : s'.isNode r = s.isNode r := by
  simp only [isNode, extended.madeOf?_eq h, extended.isBelow_eq]

end Reading

end ExtendedBy

end Session

/-- What stands under a name in a table is an entry of it. -/
theorem Table.mem_of_get?_eq_some {α : Type} {table : Table α} {name : String} {a : α}
    (h : table.get? name = some a) : (name, a) ∈ table := by
  simp only [Table.get?, Option.map_eq_some_iff] at h
  obtain ⟨⟨key, b⟩, found, rfl⟩ := h
  have key_eq : key = name := by simpa using List.find?_some found
  exact key_eq ▸ List.mem_of_find?_eq_some found

namespace Session

variable {s s' : Session}

/-- A slot that is found in a lineage is one of the class that keeps it. -/
theorem mem_of_slot? {id c : ClassId} {name : String} {slot : Slot Ref}
    (h : s.slot? id name = some (c, slot)) : (name, slot) ∈ s.hierarchy.own c := by
  obtain ⟨d, -, found⟩ := List.exists_of_findSome?_eq_some h
  simp only [Option.map_eq_some_iff, Prod.mk.injEq] at found
  obtain ⟨kept, found, rfl, rfl⟩ := found
  exact Table.mem_of_get?_eq_some found

namespace Closed

variable (closed : s.Closed)
include closed

/-- What a content refers to is there. -/
theorem refs_lt {r q : Ref} (h : q ∈ (s.content r).refs) : q < s.cells.size := by
  unfold content at h
  cases cell : s.cells[r]? with
  | none => simp [cell, Content.refs] at h
  | some c =>
    rw [cell] at h
    exact closed.cells r c cell q (by simp [Cell.refs, h])

/-- The names of a mapping are there, and so is what they are mapped to. -/
theorem entries_lt {r : Ref} {entries : List (Ref × Ref)} (h : (s.content r).entries? = some entries)
    {entry : Ref × Ref} (member : entry ∈ entries) : entry.1 < s.cells.size ∧ entry.2 < s.cells.size := by
  have refs : (s.content r).refs = entries.map (·.1) ++ entries.map (·.2) := by
    cases content : s.content r with
    | dict | listing => simp_all [Content.entries?, Content.refs]
    | _ => simp [content, Content.entries?] at h
  constructor <;> refine closed.refs_lt (r := r) ?_ <;> rw [refs]
  · exact List.mem_append_left _ (List.mem_map_of_mem member)
  · exact List.mem_append_right _ (List.mem_map_of_mem member)

/-- The attributes of an object are there. -/
theorem attributes_lt {r q : Ref} {name : String} (h : (name, q) ∈ s.attributes r) : q < s.cells.size := by
  unfold attributes at h
  cases cell : s.cells[r]? with
  | none => simp [cell] at h
  | some c =>
    simp only [cell] at h
    cases mapping : c.keptIn? with
    | none =>
      rw [mapping] at h
      have member : q ∈ c.attributes.map (·.2) := List.mem_map_of_mem (f := (·.2)) h
      exact closed.cells r c cell q (by simp [Cell.refs, member])
    | some m =>
      simp only [mapping, Option.map_some] at h
      cases content : s.content m with
      | dict entries =>
        simp only [content] at h
        obtain ⟨entry, member, found⟩ := List.mem_filterMap.mp h
        have same : entry.2 = q := by
          cases text : s.text? entry.1 <;> simp_all
        exact same ▸ (closed.entries_lt (by rw [content]; rfl) member).2
      | _ => simp [content] at h

/-- An attribute of an object is there. -/
theorem attribute?_lt {r q : Ref} {name : String} (h : s.attribute? r name = some q) : q < s.cells.size :=
  closed.attributes_lt (Table.mem_of_get?_eq_some h)

/-- The object in a slot is there. -/
theorem slotRef?_lt {id : ClassId} {name : String} {slot : Slot Ref} {q : Ref}
    (member : (name, slot) ∈ s.hierarchy.own id) (h : s.slotRef? id slot = some q) : q < s.cells.size := by
  cases slot with
  | declared r =>
    obtain rfl : r = q := by simpa [slotRef?] using h
    exact closed.slots id name r member
  | collected properties => exact closed.shared _ _ h

/-- What a class keeps of its own is there. -/
theorem own?_lt {id : ClassId} {name : String} {q : Ref} (h : s.own? id name = some q) :
    q < s.cells.size := by
  simp only [own?, Option.bind_eq_some_iff] at h
  obtain ⟨slot, found, h⟩ := h
  exact closed.slotRef?_lt (Table.mem_of_get?_eq_some found) h

/-- What the classes of a lineage keep is there. -/
theorem kept?_lt {id : ClassId} {name : String} {q : Ref} (h : s.kept? id name = some q) :
    q < s.cells.size := by
  simp only [kept?, Option.bind_eq_some_iff] at h
  obtain ⟨⟨c, slot⟩, found, h⟩ := h
  exact closed.slotRef?_lt (mem_of_slot? found) h

/-- What an object has under a name is there. -/
theorem part?_lt {r q : Ref} {name : String} (h : s.part? r name = some q) : q < s.cells.size := by
  simp only [part?, Option.or_eq_some_iff] at h
  obtain h | ⟨-, h⟩ := h
  · exact closed.attribute?_lt h
  · exact closed.kept?_lt h

/-- What a class lists of its own is there. -/
theorem listed_lt {id : ClassId} {name : String} {q : Ref} (h : (name, q) ∈ s.listed id) :
    q < s.cells.size := by
  obtain ⟨⟨key, slot⟩, member, found⟩ := List.mem_filterMap.mp h
  simp only [Option.map_eq_some_iff, Prod.mk.injEq] at found
  obtain ⟨r, found, -, rfl⟩ := found
  exact closed.slotRef?_lt member found

end Closed

namespace ExtendedBy

variable (extended : s.ExtendedBy s') (closed : s.Closed)
include extended closed

/-- An object has the attributes that it had. -/
theorem attributes_eq {r : Ref} (h : r < s.cells.size) : s'.attributes r = s.attributes r := by
  simp only [attributes, extended.cells r h]
  cases cell : s.cells[r]? with
  | none => rfl
  | some c =>
    cases mapping : c.keptIn? with
    | none => simp [mapping]
    | some m =>
      have lt : m < s.cells.size := closed.cells r c cell m (by simp [Cell.refs, mapping])
      simp only [mapping, Option.map_some, extended.content_eq lt]
      cases content : s.content m with
      | dict entries =>
        exact extended.namedEntries_eq fun entry member =>
          (closed.entries_lt (by rw [content]; rfl) member).1
      | _ => rfl

/-- An object has the attribute that it had under a name. -/
theorem attribute?_eq {r : Ref} (h : r < s.cells.size) (name : String) :
    s'.attribute? r name = s.attribute? r name := by
  simp only [attribute?, extended.attributes_eq closed h]

/-- In a slot is the object that was in it. -/
theorem slotRef?_eq {id : ClassId} {name : String} {slot : Slot Ref}
    (member : (name, slot) ∈ s.hierarchy.own id) : s'.slotRef? id slot = s.slotRef? id slot := by
  cases slot with
  | declared r => rfl
  | collected properties =>
    obtain ⟨r, known⟩ := Option.isSome_iff_exists.mp (closed.collected id name properties member)
    simp only [slotRef?, known, extended.shared _ _ known]

/-- A class keeps of its own what it kept. -/
theorem own?_eq (id : ClassId) (name : String) : s'.own? id name = s.own? id name := by
  simp only [own?, extended.hierarchy]
  cases found : (s.hierarchy.own id).get? name with
  | none => rfl
  | some slot => exact extended.slotRef?_eq closed (Table.mem_of_get?_eq_some found)

/-- A class and those above it keep what they kept. -/
theorem kept?_eq (id : ClassId) (name : String) : s'.kept? id name = s.kept? id name := by
  simp only [kept?, extended.slot?_eq]
  cases found : s.slot? id name with
  | none => rfl
  | some kept => exact extended.slotRef?_eq closed (mem_of_slot? found)

/-- A class and those above it keep the function that they kept. -/
theorem function?_eq (id : ClassId) (action : Action) : s'.function? id action = s.function? id action := by
  simp only [function?, extended.kept?_eq closed]
  cases found : s.kept? id action.name with
  | none => rfl
  | some q => simp only [Option.map_some, extended.content_eq (closed.kept?_lt found)]

/-- An object has under a name what it had. -/
theorem part?_eq {r : Ref} (h : r < s.cells.size) (name : String) : s'.part? r name = s.part? r name := by
  simp only [part?, extended.attribute?_eq closed h, extended.classOf_eq h, extended.kept?_eq closed]

/-- A class lists of its own what it listed. -/
theorem listed_eq (id : ClassId) : s'.listed id = s.listed id := by
  simp only [listed, extended.hierarchy]
  refine List.filterMap_congr fun entry member => ?_
  simp only [extended.slotRef?_eq closed member]

/-- A class is of the module that it was of. -/
theorem home?_eq (id : ClassId) : s'.home? id = s.home? id := by
  simp only [home?, extended.own?_eq closed]
  cases found : s.own? id Attribute.home with
  | none => rfl
  | some q => simp only [extended.text?_eq (closed.own?_lt found)]

/-- A class has the name, with those of the classes around it, that it had: a new object for a class
says nothing of it. -/
theorem qualifiedName_eq (id : ClassId) : s'.qualifiedName id = s.qualifiedName id := by
  simp only [qualifiedName, extended.hierarchy]
  cases known : s.shared? (.type id) with
  | some r =>
    have lt := closed.shared _ _ known
    simp only [extended.shared _ _ known, Option.bind_some, extended.attribute?_eq closed lt]
    cases found : s.attribute? r Attribute.qualifiedName with
    | none => rfl
    | some q => exact extended.textOf_eq (closed.attribute?_lt found)
  | none =>
    cases new : s'.shared? (.type id) with
    | none => rfl
    | some r =>
      obtain old | cell := extended.types id r new
      · simp [known] at old
      · simp [attribute?, attributes, cell]

/-- A class has the name with its module that it had. -/
theorem fullName_eq (id : ClassId) : s'.fullName id = s.fullName id := by
  simp only [fullName, extended.home?_eq closed, extended.qualifiedName_eq closed, extended.hierarchy]

/-- A class has the inspection form that it had. -/
theorem inspectClass_eq (id : ClassId) : s'.inspectClass id = s.inspectClass id := by
  simp only [inspectClass, extended.classOfClass_eq, extended.fullName_eq closed, extended.hierarchy]

/-- A class is the type that it was. -/
theorem classType_eq (id : ClassId) : s'.classType id = s.classType id := by
  simp only [classType, extended.inspectClass_eq closed, extended.hierarchy]

/-- A function has the name, with that of its class, that it had. -/
theorem functionName_eq {r : Ref} (h : r < s.cells.size) (f : Function) :
    s'.functionName r f = s.functionName r f := by
  simp only [functionName, extended.attribute?_eq closed h]
  cases found : s.attribute? r Attribute.qualifiedName with
  | none => rfl
  | some q => exact extended.textOf_eq (closed.attribute?_lt found)

/-- A property has the name that it had. -/
theorem property?_eq {r : Ref} (h : r < s.cells.size) : s'.property? r = s.property? r := by
  simp only [property?, extended.madeOf?_eq h, extended.isBelow_eq, extended.attribute?_eq closed h]
  cases s.madeOf? r with
  | none => rfl
  | some id =>
    cases found : s.attribute? r Attribute.name with
    | none => rfl
    | some q => simp only [Option.bind_some, extended.text?_eq (closed.attribute?_lt found)]

end ExtendedBy

end Session

namespace Snapshot

variable {s s' : Session} {read read' : Reader} {path path' : List Ref}

/-- Steps that agree on all items give the same list. -/
theorem mapM_congr {α β ε : Type} {f g : α → Except ε β} {items : List α}
    (h : ∀ a ∈ items, f a = g a) : items.mapM f = items.mapM g := by
  induction items with
  | nil => rfl
  | cons a rest ih =>
    simp only [List.mapM_cons, h a List.mem_cons_self, ih fun b member => h b (List.mem_cons_of_mem _ member)]

section Agreement

variable (extended : s.ExtendedBy s') (closed : s.Closed)
  (agree : ∀ q < s.cells.size, read' path' q = read path q)
include extended closed agree

/-- A part is read as it was if the object under its name is. -/
theorem part_eq {r : Ref} (h : r < s.cells.size) (name : String) :
    part s' read' path' r name = part s read path r name := by
  simp only [part, extended.holder_eq h, extended.part?_eq closed h]
  cases found : s.part? r name with
  | none => rfl
  | some q => simp only [Option.map_some, agree q (closed.part?_lt found)]

omit agree in
/-- A function is named as it was. -/
theorem functionName_eq {r : Ref} (h : r < s.cells.size) : functionName s' r = functionName s r := by
  simp only [functionName, extended.content_eq h, extended.attribute?_eq closed h]
  cases found : s.attribute? r Attribute.className with
  | none => cases s.content r <;> rfl
  | some q => exact extended.textOf_eq (closed.attribute?_lt found)

/-- An object is named as a type as it was. -/
theorem named_eq {r : Ref} (h : r < s.cells.size) : named s' read' path' r = named s read path r := by
  simp only [named, extended.content_eq h]
  cases content : s.content r with
  | type id => simp only [extended.hierarchy]
  | containerOf c shown =>
    have lt : c < s.cells.size := closed.refs_lt (r := r) (by simp [content, Content.refs])
    simp only [extended.content_eq lt, extended.hierarchy, extended.holder_eq lt]
  | function f => simp only [functionName_eq extended closed h]
  | method f self =>
    have lt : f < s.cells.size := closed.refs_lt (r := r) (by simp [content, Content.refs])
    simp only [functionName_eq extended closed lt]
  | member | boundMember => rfl
  | _ => simp only [part_eq extended closed agree h]

/-- An object has the handle that it had. -/
theorem handle_eq {r : Ref} (h : r < s.cells.size) (shown displayed : Except Fault String) :
    handle s' read' path' r shown displayed = handle s read path r shown displayed := by
  simp only [handle, extended.className_eq h, extended.holder_eq h, named_eq extended closed agree h]

/-- An object is the type that it was. -/
theorem typeOf_eq {r : Ref} (h : r < s.cells.size) : typeOf s' read' path' r = typeOf s read path r := by
  simp only [typeOf, extended.content_eq h, extended.classType_eq closed, agree r h,
    handle_eq extended closed agree h]

/-- A node is of the type that it was of. -/
theorem nodeType?_eq {r : Ref} (h : r < s.cells.size) :
    nodeType? s' read' path' r = nodeType? s read path r := by
  simp only [nodeType?, extended.part?_eq closed h]
  cases found : s.part? r Attribute.semanticType with
  | none => rfl
  | some q => simp only [Option.map_some, typeOf_eq extended closed agree (closed.part?_lt found)]

omit agree in
/-- An attribute is the plain text that it was. -/
theorem plainText?_eq {r : Ref} (h : r < s.cells.size) (name : String) :
    plainText? s' r name = plainText? s r name := by
  simp only [plainText?, extended.attribute?_eq closed h]
  cases found : s.attribute? r name with
  | none => rfl
  | some q =>
    have lt := closed.attribute?_lt found
    simp only [Option.bind_eq_bind, Option.bind_some, extended.text?_eq lt, extended.below?_eq lt]

/-- An attribute is read as it was. -/
theorem own?_eq {r : Ref} (h : r < s.cells.size) (name : String) :
    own? s' read' path' r name = own? s read path r name := by
  simp only [own?, extended.attribute?_eq closed h]
  cases found : s.attribute? r name with
  | none => rfl
  | some q => simp only [Option.map_some, agree q (closed.attribute?_lt found)]

/-- An object is the node that it was. -/
theorem node?_eq {r : Ref} (h : r < s.cells.size) (id : ClassId) :
    node? s' read' path' r id = node? s read path r id := by
  simp only [node?, extended.property?_eq closed h, nodeType?_eq extended closed agree h,
    plainText?_eq extended closed h, own?_eq extended closed agree h]

omit agree in
/-- An object has the options that it had. -/
theorem options_eq {r : Ref} (h : r < s.cells.size) : options s' r = options s r := by
  simp only [options, extended.attributes_eq closed h]

omit agree in
/-- An object is the style that it was. -/
theorem style?_eq {r : Ref} (h : r < s.cells.size) (id : ClassId) : style? s' r id = style? s r id := by
  have contents : (options s r).map (s'.content ·.2) = (options s r).map (s.content ·.2) := by
    refine List.map_congr_left fun entry member => ?_
    exact extended.content_eq (closed.attributes_lt (List.mem_of_mem_filter member))
  simp only [style?, options_eq extended closed h, contents]

/-- The inspection form of a part is what it was. -/
theorem inspectPart_eq {r : Ref} (h : r < s.cells.size) (name : String) :
    inspectPart s' read' path' r name = inspectPart s read path r name := by
  simp only [inspectPart, part_eq extended closed agree h]

/-- The inspection form of the items of a part is what it was. -/
theorem inspectItems_eq {r : Ref} (h : r < s.cells.size) (name : String) :
    inspectItems s' read' path' r name = inspectItems s read path r name := by
  simp only [inspectItems, part_eq extended closed agree h]

/-- The inspection forms of parts are what they were. -/
theorem inspectParts_eq {r : Ref} (h : r < s.cells.size) (names : List String) (separator : String) :
    inspectParts s' read' path' r names separator = inspectParts s read path r names separator := by
  simp only [inspectParts, inspectPart_eq extended closed agree h]

/-- The target of an adapter is named as it was. -/
theorem targetName_eq {r : Ref} (h : r < s.cells.size) :
    targetName s' read' path' r = targetName s read path r := by
  simp only [targetName, extended.part?_eq closed h, extended.holder_eq h]
  cases found : s.part? r Attribute.target with
  | none => rfl
  | some q => simp only [typeOf_eq extended closed agree (closed.part?_lt found)]

/-- A class shows an object as it did. -/
theorem inspectAs_eq {r : Ref} (h : r < s.cells.size) (owner : StandingClass) (id : ClassId) :
    inspectAs s' read' path' owner r id = inspectAs s read path owner r id := by
  simp only [inspectAs, extended.hierarchy, extended.qualifiedName_eq closed,
    inspectParts_eq extended closed agree h, inspectPart_eq extended closed agree h,
    inspectItems_eq extended closed agree h, targetName_eq extended closed agree h,
    options_eq extended closed h]

/-- The inspection form of an object is what it was. -/
theorem inspectObject_eq {r : Ref} (h : r < s.cells.size) (id : ClassId) :
    inspectObject s' read' path' r id = inspectObject s read path r id := by
  simp only [inspectObject, extended.function?_eq closed, inspectAs_eq extended closed agree h,
    extended.fullName_eq closed]

/-- An object appears in texts as it did. -/
theorem displayObject_eq {r : Ref} (h : r < s.cells.size) (id : ClassId) :
    displayObject s' read' path' r id = displayObject s read path r id := by
  simp only [displayObject, extended.isBelow_eq, inspectParts_eq extended closed agree h,
    options_eq extended closed h, inspectObject_eq extended closed agree h]

omit closed in
/-- A collection is shown as it was. -/
theorem inspectCollection_eq {r : Ref} (h : r < s.cells.size) {items : List Ref}
    (members : ∀ q ∈ items, q < s.cells.size) :
    inspectCollection s' read' path' r items = inspectCollection s read path r items := by
  have shown : items.mapM (fun item => (read' path' item).inspect) =
      items.mapM fun item => (read path item).inspect :=
    mapM_congr fun q member => by rw [agree q (members q member)]
  simp only [inspectCollection, shown, extended.className_eq h, extended.classOf_eq h]

/-- What an object consists of is read as it was. -/
theorem contentValue_eq {r : Ref} (h : r < s.cells.size) :
    contentValue s' read' path' r = contentValue s read path r := by
  have each : ∀ items : List Ref, (∀ q ∈ items, q < s.cells.size) →
      items.map (read' path') = items.map (read path) := fun items member =>
    List.map_congr_left fun q found => agree q (member q found)
  have refs : ∀ q ∈ (s.content r).refs, q < s.cells.size := fun q member => closed.refs_lt member
  have ofHandle := handle_eq extended closed agree h
  unfold contentValue
  simp only [extended.content_eq h]
  cases content : s.content r with
  | atom v => rfl
  | list items | tuple items =>
    rw [content] at refs
    simp only [each items refs]
  | dict entries =>
    have ofEntries : ∀ entry ∈ entries, entry.1 < s.cells.size ∧ entry.2 < s.cells.size :=
      fun entry member => closed.entries_lt (r := r) (by rw [content]; rfl) member
    have keys : entries.map (read' path' ·.1) = entries.map (read path ·.1) :=
      List.map_congr_left fun entry member => agree _ (ofEntries entry member).1
    have values : entries.map (read' path' ·.2) = entries.map (read path ·.2) :=
      List.map_congr_left fun entry member => agree _ (ofEntries entry member).2
    simp only [keys, values]
  | listing entries =>
    have ofEntries : ∀ entry ∈ entries, entry.1 < s.cells.size ∧ entry.2 < s.cells.size :=
      fun entry member => closed.entries_lt (r := r) (by rw [content]; rfl) member
    have keys : entries.map (s'.textOf ·.1) = entries.map (s.textOf ·.1) :=
      List.map_congr_left fun entry member => extended.textOf_eq (ofEntries entry member).1
    have values : entries.map (read' path' ·.2) = entries.map (read path ·.2) :=
      List.map_congr_left fun entry member => agree _ (ofEntries entry member).2
    simp only [keys, values]
  | classListing id =>
    have values : (s.listed id).map (read' path' ·.2) = (s.listed id).map (read path ·.2) :=
      List.map_congr_left fun entry member => agree _ (closed.listed_lt member)
    simp only [extended.listed_eq closed, values]
  | collection frozen items =>
    have shown : inspectCollection s' read' path' r items = inspectCollection s read path r items :=
      inspectCollection_eq extended agree h fun q member => refs q (by rw [content]; exact member)
    simp only [contentValue.shownAs, shown, ofHandle]
  | type id => simp only [extended.classType_eq closed]
  | object id =>
    simp only [node?_eq extended closed agree h, style?_eq extended closed h,
      inspectObject_eq extended closed agree h, displayObject_eq extended closed agree h, ofHandle]
  | function f => simp only [contentValue.shownAs, extended.functionName_eq closed h, ofHandle]
  | method f self =>
    rw [content] at refs
    have ltFunction : f < s.cells.size := refs f (by simp [Content.refs])
    have ltSelf : self < s.cells.size := refs self (by simp [Content.refs])
    simp only [contentValue.shownAs, contentValue.name, agree self ltSelf, extended.content_eq ltFunction,
      extended.functionName_eq closed ltFunction, ofHandle]
  | member m => simp only [contentValue.shownAs, extended.classTypeName_eq, ofHandle]
  | boundMember m self =>
    rw [content] at refs
    have lt : self < s.cells.size := refs self (by simp [Content.refs])
    simp only [contentValue.shownAs, extended.typeName_eq lt, ofHandle]
  | containerOf | token | validator | builder => simp only [contentValue.shownAs, ofHandle]

/-- An object is shown as an object of a class below that of its content as it was. -/
theorem derivedValue_eq {r : Ref} (h : r < s.cells.size) (id : ClassId) :
    derivedValue s' read' path' r id = derivedValue s read path r id := by
  simp only [derivedValue, contentValue_eq extended closed agree h, extended.function?_eq closed,
    inspectAs_eq extended closed agree h, handle_eq extended closed agree h]

/-- An object is read as it was if the objects it refers to are. -/
theorem assemble_eq {r : Ref} (h : r < s.cells.size) :
    assemble s' read' path' r = assemble s read path r := by
  simp only [assemble, extended.below?_eq h, derivedValue_eq extended closed agree h,
    contentValue_eq extended closed agree h]

end Agreement

/-- The objects of a session that are not on the way down. -/
def unseen (s : Session) (path : List Ref) : Finset Ref :=
  (Finset.range s.cells.size).filter (· ∉ path)

/-- One more object on the way down is one fewer that is not. -/
theorem card_unseen_cons_lt {r : Ref} (h : r < s.cells.size) (new : r ∉ path) :
    (unseen s (r :: path)).card < (unseen s path).card := by
  refine Finset.card_lt_card ⟨fun q member => ?_, fun back => ?_⟩
  · simp_all [unseen]
  · have member : r ∈ unseen s path := by simp [unseen, h, new]
    simpa [unseen] using back member

/-- Neither more depth nor new objects, be they on the way down or not, change how an object is read:
the depth is enough as long as it exceeds the number of objects not yet met. -/
theorem readWithin_eq (extended : s.ExtendedBy s') (closed : s.Closed) {depth depth' : Nat}
    (enough : (unseen s path).card < depth) (enough' : (unseen s path).card < depth')
    (sameWay : ∀ q < s.cells.size, q ∈ path' ↔ q ∈ path) {r : Ref} (h : r < s.cells.size) :
    readWithin s' depth' path' r = readWithin s depth path r := by
  induction depth generalizing depth' path path' r with
  | zero => omega
  | succ depth ih =>
    obtain ⟨depth', rfl⟩ : ∃ n, depth' = n + 1 := ⟨depth' - 1, by omega⟩
    by_cases met : r ∈ path
    · have met' : r ∈ path' := (sameWay r h).mpr met
      simp only [readWithin, List.contains_eq_mem, met, met', decide_true, if_true, extended.content_eq h,
        extended.className_eq h, extended.holder_eq h]
    · have new' : r ∉ path' := fun member => met ((sameWay r h).mp member)
      have fewer := card_unseen_cons_lt h met
      have agree : ∀ q < s.cells.size,
          readWithin s' depth' (r :: path') q = readWithin s depth (r :: path) q := fun q lt =>
        ih (by omega) (by omega) (fun p ltp => by simp [sameWay p ltp]) lt
      simp only [readWithin, List.contains_eq_mem, met, new', decide_false, Bool.false_eq_true, if_false]
      exact assemble_eq extended closed agree h

end Snapshot

namespace Session

variable {s s' : Session}

/-- An object is read as the value that it is, at any depth that is enough and with only new objects on
the way down. -/
theorem ExtendedBy.readWithin_eq_value (extended : s.ExtendedBy s') (closed : s.Closed) {depth : Nat}
    (enough : s.cells.size < depth) {path : List Ref} (new : ∀ q ∈ path, s.cells.size ≤ q) {r : Ref}
    (h : r < s.cells.size) : Snapshot.readWithin s' depth path r = s.value r := by
  have card : (Snapshot.unseen s []).card ≤ s.cells.size :=
    (Finset.card_filter_le _ _).trans_eq (Finset.card_range _)
  refine Snapshot.readWithin_eq extended closed (by unfold Session.depth; omega) (by omega) ?_ h
  intro q lt
  simpa using fun member => absurd (new q member) (by omega)

/-- A session that only grows changes no value. -/
theorem ExtendedBy.value_eq (extended : s.ExtendedBy s') (closed : s.Closed) {r : Ref}
    (h : r < s.cells.size) : s'.value r = s.value r :=
  extended.readWithin_eq_value closed
    (by unfold Session.depth; have := extended.size; omega) (by simp) h

/-- A session that only grows changes no type. -/
theorem ExtendedBy.typeOf_eq (extended : s.ExtendedBy s') (closed : s.Closed) {r : Ref}
    (h : r < s.cells.size) : s'.typeOf r = s.typeOf r :=
  Snapshot.typeOf_eq extended closed (fun _ lt => extended.value_eq closed lt) h

end Session

end FilterAlgebra
