import FilterAlgebra.Proofs.Preparation

/-!
# Kinds of what classes keep

The classes that are always there are filled by computations, but under which names they
keep something, and of which kind it is, can be said beforehand: `StandingClass.kinds`
and `SemanticType.kinds` are the tables. What a class is filled with is kept as its table
says (`filling_keep`, `fillingBuiltIn_keep`). Classes of named values are left
out, since they keep what other classes keep.
-/

set_option autoImplicit false

namespace FilterAlgebra

/-- What is known of an object that a class keeps. -/
inductive Kept where
  | function (f : Function)
  | member (m : Member)
  | test (c : StandardCapability)
  | type (id : ClassId)
  | other
  deriving DecidableEq

/-- An object is of a kind. -/
def Kept.Holds (s : Session) (r : Ref) : Kept → Prop
  | function f => s.IsPlain r (.function f)
  | member m => s.IsPlain r (.member m)
  | test c => s.IsPlain r (.validator (.ofCatalogue c))
  | type id => s.shared? (.type id) = some r
  | other => r < s.cells.size

namespace StandingClass

/-- The kinds of the functions that a class defines. -/
def functionKinds (c : StandingClass) : Table Kept :=
  c.functions.map fun f => (f.action.name, .function f)

/-- The kinds of the members that a class keeps. -/
def memberKinds (c : StandingClass) : Table Kept :=
  c.members.map fun (name, m) => (name, .member m)

/-- The kind of the semantic type that a class keeps. -/
def typeKinds (c : StandingClass) : Table Kept :=
  if c = .hexIntegerCapability || c = .shortTextCapability then []
  else match c.type? with
    | some t => [(Attribute.semanticType, .type (builtIn t))]
    | none => []

/-- The kinds of what a class of nodes keeps for those who take its objects apart. -/
def recordKinds (c : StandingClass) : Table Kept :=
  match c.fields? with
  | some _ => [("__match_args__", .other), ("__dataclass_params__", .other)]
  | none => []

/-- The kinds of what a capability class keeps besides. -/
def capabilityKinds (c : StandingClass) : Table Kept :=
  match c.capability?.bind fun served => served.form?.map fun form => (served, form) with
  | some (served, _) => [("source_schema", .other), (Attribute.validator, .test served)]
  | none => []

/-- The kinds of what a class keeps to say what it leaves open. -/
def openKinds (c : StandingClass) : Table Kept :=
  (if c.missing?.isSome then [("__abstractmethods__", .other)] else []) ++
    if c.parameters?.isSome then [("__parameters__", .other)] else []

/-- The kinds of what single classes keep besides. -/
def furtherKinds : StandingClass → Table Kept
  | .abstractBase => [("__slots__", .other)]
  | .generic => [("__slots__", .other), ("_is_protocol", .other)]
  | .model =>
    [("model_config", .other), ("model_fields", .other), ("model_computed_fields", .other), ("model_extra", .other)]
  | .style => [("model_config", .other), ("model_fields", .other)]
  | _ => []

/-- The kinds of what a class keeps besides functions and members. -/
def entryKinds (c : StandingClass) : Table Kept :=
  (if SessionM.isFixed c.id then [] else [(Attribute.home, .other)]) ++ [(Attribute.description, .other)] ++
    (if c.annotations.isEmpty then [] else [("__annotations__", .other)]) ++
    (if c.isUnhashable then [(Action.name .hash, .other)] else []) ++
    c.typeKinds ++ c.recordKinds ++ c.capabilityKinds ++ c.openKinds ++ c.furtherKinds

/-- The kinds of what a class keeps, each under its name. -/
def kinds (c : StandingClass) : Table Kept :=
  c.functionKinds ++ c.memberKinds ++ c.entryKinds

/-- Whether a class keeps named values, or what the class above all of them keeps. -/
def isNaming (c : StandingClass) : Bool :=
  c = color || c = tag || c = integerEnumeration || c = textEnumeration

end StandingClass

/-- The kinds of what a built-in class keeps, each under its name. -/
def SemanticType.kinds (id : ClassId) (t : SemanticType) : Table Kept :=
  ((Member.ofBuiltIn id t).map fun (name, m) => (name, Kept.member m)) ++
    ((if t = .decimal then [(Attribute.home, .other)] else []) ++ [(Attribute.description, .other)] ++
      if t.isUnhashable then [(Action.name .hash, .other)] else [])

namespace Session

/-- What stands in a table is of the kinds that another one says. -/
def Keep (s : Session) (table : Table Ref) (kinds : Table Kept) : Prop :=
  List.Forall₂ (fun entry kind => entry.1 = kind.1 ∧ kind.2.Holds s entry.2) table kinds

variable {s s' : Session}

/-- An object of a kind is there. -/
theorem Tidy.lt_of_holds (tidy : s.Tidy) {kind : Kept} {r : Ref} (h : kind.Holds s r) : r < s.cells.size := by
  cases kind with
  | function | member | test => exact IsPlain.lt h
  | type id => exact tidy.shared _ r h
  | other => exact h

/-- An object stays of its kind. -/
theorem PreparedTo.holds (grown : s.PreparedTo s') {kind : Kept} {r : Ref} (h : kind.Holds s r) :
    kind.Holds s' r := by
  cases kind with
  | function | member | test => exact grown.isPlain h rfl
  | type id => exact grown.shared _ r h
  | other => exact lt_of_lt_of_le h grown.size

/-- What stands in a table stays of the kinds that it is of. -/
theorem Keep.prepared {table : Table Ref} {kinds : Table Kept} (h : s.Keep table kinds)
    (grown : s.PreparedTo s') : s'.Keep table kinds :=
  h.imp fun _ _ entry => ⟨entry.1, grown.holds entry.2⟩

/-- Tables one after the other are of the kinds that they are of. -/
theorem Keep.append {first second : Table Ref} {kinds kinds' : Table Kept} (h : s.Keep first kinds)
    (h' : s.Keep second kinds') : s.Keep (first ++ second) (kinds ++ kinds') :=
  List.rel_append h h'

/-- What a class keeps of its own is there. -/
theorem Tidy.own?_lt (tidy : s.Tidy) {id : ClassId} {name : String} {r : Ref} (h : s.own? id name = some r) :
    r < s.cells.size := by
  obtain ⟨slot, found, kept⟩ := Option.bind_eq_some_iff.mp h
  cases slot with
  | declared q =>
    obtain rfl := Option.some.inj kept
    exact tidy.slots id name q (Table.mem_of_get?_eq_some found)
  | collected properties => exact tidy.shared _ r kept

/-- All that stands in a table is there. -/
theorem Keep.there (tidy : s.Tidy) {table : Table Ref} {kinds : Table Kept} (h : s.Keep table kinds) :
    ∀ entry ∈ table, entry.2 < s.cells.size := by
  intro entry member
  obtain ⟨i, lt, rfl⟩ := List.mem_iff_getElem.mp member
  exact tidy.lt_of_holds (h.get lt (by rw [← h.length_eq]; exact lt)).2

/-- Of a single object that is there nothing more need be known. -/
theorem keep_other {r : Ref} (name : String) (there : r < s.cells.size) : s.Keep [(name, r)] [(name, .other)] :=
  .cons ⟨rfl, there⟩ .nil

/-- Of what is there nothing more need be known. -/
theorem keep_others {table : Table Ref} (there : ∀ entry ∈ table, entry.2 < s.cells.size) :
    s.Keep table (table.map fun entry => (entry.1, .other)) := by
  refine List.forall₂_map_right_iff.mpr (List.forall₂_same.mpr fun entry member => ?_)
  exact ⟨rfl, there entry member⟩

/-- An object of a kind stands under a name exactly if the kind does. -/
theorem Keep.get? {table : Table Ref} {kinds : Table Kept} (h : s.Keep table kinds) (name : String) :
    Option.Rel (fun r kind => kind.Holds s r) (table.get? name) (kinds.get? name) := by
  induction h with
  | nil => exact .none
  | @cons entry kind table kinds first _ ih =>
    obtain ⟨key, r⟩ := entry
    obtain ⟨key', kind⟩ := kind
    obtain ⟨rfl, holds⟩ := first
    rw [Table.get?_cons, Table.get?_cons]
    by_cases same : key = name
    · simp only [same, if_true]
      exact .some holds
    · simp only [same, if_false]
      exact ih

end Session

namespace SessionM

variable {s : Session} {c : StandingClass}

/-- The entries of a table are made of the kinds that they are to be of. -/
theorem newEntries_keep {α : Type} {make : α → SessionM Ref} {table : Table α} (kind : α → Kept) (tidy : s.Tidy)
    (each : ∀ entry ∈ table, ∀ s', s.PreparedTo s' → s'.Tidy →
      Prepared (fun s'' r => (kind entry.2).Holds s'' r) s' (make entry.2)) :
    Prepared (fun s' made => s'.Keep made (table.map fun entry => (entry.1, kind entry.2))) s
      (newEntries make table) := by
  have stays : ∀ (s' s'' : Session) (entry : String × α) (made : String × Ref), s'.PreparedTo s'' →
      made.1 = entry.1 ∧ (kind entry.2).Holds s' made.2 → made.1 = entry.1 ∧ (kind entry.2).Holds s'' made.2 :=
    fun s' s'' entry made grown h => ⟨h.1, grown.holds h.2⟩
  refine (Prepared.mapM tidy (fun entry member s' grown tidy' => ?_) stays).imp
    fun s' made _ _ all => List.forall₂_map_right_iff.mpr all.flip
  refine (each entry member s' grown tidy').bind fun s'' r _ tidy'' holds => ?_
  exact Prepared.pure tidy'' ⟨rfl, holds⟩

/-- The entries of a table are made, with an object for each. -/
theorem newEntries_there {α : Type} (make : α → SessionM Ref) (table : Table α) (tidy : s.Tidy)
    (each : ∀ entry ∈ table, ∀ s', s'.Tidy → Prepared IsThere s' (make entry.2)) :
    Prepared (fun s' made => ∀ entry ∈ made, entry.2 < s'.cells.size) s (newEntries make table) := by
  have made : Prepared (fun s' made => s'.Keep made (table.map fun entry => (entry.1, Kept.other))) s
      (newEntries make table) :=
    newEntries_keep (fun _ => .other) tidy fun entry member s' _ tidy' => each entry member s' tidy'
  exact made.imp fun s' made _ tidy' keep => keep.there tidy'

/-- A single entry of which nothing more is known than that it is there. -/
theorem single_keep {name : String} {p : SessionM Ref} (made : Prepared IsThere s p) :
    Prepared (fun s' table => s'.Keep table [(name, .other)]) s (do return [(name, ← p)]) := by
  refine made.bind fun s' r _ tidy' isThere => ?_
  exact Prepared.pure tidy' (Session.keep_other name isThere)

/-- Of two ways to make entries one is chosen. -/
theorem choice_keep {condition : Prop} [Decidable condition] {p q : SessionM (Table Ref)} {kinds kinds' : Table Kept}
    (made : condition → Prepared (fun s' table => s'.Keep table kinds) s p)
    (made' : ¬condition → Prepared (fun s' table => s'.Keep table kinds') s q) :
    Prepared (fun s' table => s'.Keep table (if condition then kinds else kinds')) s
      (if condition then p else q) := by
  by_cases h : condition
  · simp only [h, if_true]
    exact made h
  · simp only [h, if_false]
    exact made' h

/-- An object of which only the inspection form is known is there. -/
theorem newToken_there (tidy : s.Tidy) (type : StandingClass) (shown : String) :
    Prepared IsThere s (newToken type shown) :=
  (Prepared.newPlain tidy (by simp [Content.refs])).imp fun _ _ _ _ plain => plain.lt

/-- What a class says of itself is there. -/
theorem newDescription_there (tidy : s.Tidy) (text? : Option String) :
    Prepared IsThere s (newDescription text?) := by
  cases text? with
  | none => exact Prepared.absent tidy
  | some text => exact Prepared.newText tidy text

/-- A class of nodes keeps what it keeps for those who take its objects apart. -/
theorem recordEntries_keep (tidy : s.Tidy) :
    Prepared (fun s' table => s'.Keep table c.recordKinds) s (recordEntries c) := by
  unfold recordEntries StandingClass.recordKinds
  cases c.fields? with
  | none => exact Prepared.pure tidy .nil
  | some fields =>
    refine (Prepared.mapM_there tidy fun name _ s' _ tidy' => Prepared.newText tidy' name).bind
      fun s₁ names _ tidy₁ there => ?_
    refine (Prepared.newTuple tidy₁ there).bind fun s₂ first _ tidy₂ isFirst => ?_
    refine (newToken_there tidy₂ _ _).bind fun s₃ second grown₃ tidy₃ isSecond => ?_
    exact Prepared.pure tidy₃ (.cons ⟨rfl, lt_of_lt_of_le isFirst grown₃.size⟩ (.cons ⟨rfl, isSecond⟩ .nil))

/-- Texts are values of which objects can be made. -/
theorem ofClasses_text (t : String) : OfClasses (.str t) :=
  .atom (by simp [Value.str]) rfl

/-- Integers are values of which objects can be made. -/
theorem ofClasses_int (n : Int) : OfClasses (.int n) :=
  .atom (by simp) rfl

/-- Of a mapping of names an object can be made if one can be made of each value in it. -/
theorem ofClasses_mapping {entries : Table Value} (each : ∀ entry ∈ entries, OfClasses entry.2) :
    OfClasses (StandardCapability.mapping entries) := by
  refine .dict (fun v member => ?_) fun v member => ?_
  · obtain ⟨entry, -, rfl⟩ := List.mem_map.mp member
    exact ofClasses_text entry.1
  · obtain ⟨entry, found, rfl⟩ := List.mem_map.mp member
    exact each entry found

/-- Forms are values of which objects can be made. -/
theorem ofClasses_form {served : StandardCapability} {form : Value} (h : served.form? = some form) :
    OfClasses form := by
  have text := ofClasses_text
  have truth : ∀ b, OfClasses (.bool b) := fun b => .atom (by simp) rfl
  have number := ofClasses_int
  have strict : ∀ entries : Table Value, (∀ entry ∈ entries, OfClasses entry.2) →
      OfClasses (StandardCapability.mapping (entries ++ StandardCapability.strictness)) := by
    intro entries each
    refine ofClasses_mapping fun entry member => ?_
    obtain member | member := List.mem_append.mp member
    · exact each entry member
    · obtain rfl := List.mem_singleton.mp member
      exact truth true
  have ofInteger : OfClasses StandardCapability.form?.integerForm := strict _ (by simp [text])
  have ofText : OfClasses StandardCapability.form?.textForm := strict _ (by simp [text])
  cases served with
  | hexInteger => cases h
  | double =>
    obtain rfl := Option.some.inj h
    have isInstance : OfClasses (StandardCapability.mapping [("type", .str "is-instance"), ("cls", .type .float)]) := by
      refine ofClasses_mapping ?_
      simpa [text] using OfClasses.type rfl
    have float : OfClasses (StandardCapability.mapping
        ([("type", .str "float"), ("allow_inf_nan", .bool false)] ++ StandardCapability.strictness)) :=
      strict _ (by simp [text, truth])
    refine ofClasses_mapping ?_
    have steps := OfClasses.list (List.forall_mem_cons.mpr ⟨isInstance, List.forall_mem_singleton.mpr float⟩)
    exact List.forall_mem_cons.mpr ⟨text _, List.forall_mem_singleton.mpr steps⟩
  | pair =>
    obtain rfl := Option.some.inj h
    refine strict _ ?_
    simpa [text] using OfClasses.list (by simp [ofInteger, ofText])
  | integer =>
    obtain rfl := Option.some.inj h
    exact ofInteger
  | text =>
    obtain rfl := Option.some.inj h
    exact ofText
  | _ =>
    obtain rfl := Option.some.inj h
    exact strict _ (by simp [text, number])

/-- A capability class keeps the test for what its capabilities accept. -/
theorem capabilityEntries_keep (tidy : s.Tidy) :
    Prepared (fun s' table => s'.Keep table c.capabilityKinds) s (capabilityEntries c) := by
  unfold capabilityEntries StandingClass.capabilityKinds
  cases found : c.capability?.bind fun served => served.form?.map fun form => (served, form) with
  | none => exact Prepared.pure tidy .nil
  | some entry =>
    obtain ⟨served, form⟩ := entry
    have ofClasses : OfClasses form := by
      obtain ⟨served', -, mapped⟩ := Option.bind_eq_some_iff.mp found
      obtain ⟨form', isForm, same⟩ := Option.map_eq_some_iff.mp mapped
      obtain ⟨rfl, rfl⟩ := Prod.mk.inj same
      exact ofClasses_form isForm
    refine (Prepared.newValue ofClasses tidy).bind fun s₁ schema _ tidy₁ isSchema => ?_
    refine (Prepared.newPlain tidy₁ (by simp [Content.refs])).bind fun s₂ test grown₂ tidy₂ isTest => ?_
    exact Prepared.pure tidy₂ (.cons ⟨rfl, lt_of_lt_of_le isSchema grown₂.size⟩ (.cons ⟨rfl, isTest⟩ .nil))

/-- A class keeps the class that is its semantic type. -/
theorem typeEntries_keep (tidy : s.Tidy) :
    Prepared (fun s' table => s'.Keep table c.typeKinds) s (typeEntries c) := by
  unfold typeEntries StandingClass.typeKinds
  refine choice_keep (fun _ => Prepared.pure tidy .nil) fun _ => ?_
  cases found : c.type? with
  | none => exact Prepared.pure tidy .nil
  | some t =>
    have isClass : t.isClass = true := by
      revert found
      cases c <;> intro found <;> cases found <;> rfl
    refine (Prepared.typeObject tidy isClass).bind fun s₁ r _ tidy₁ known => ?_
    exact Prepared.pure tidy₁ (.cons ⟨rfl, known⟩ .nil)

/-- What a class keeps to say which functions a class below has to define. -/
def missingEntries (c : StandingClass) : SessionM (Table Ref) :=
  match c.missing? with
  | some names => do return [("__abstractmethods__", ← newCollection (← names.mapM newText))]
  | none => pure []

/-- What a class keeps to say which types it leaves open. -/
def parameterEntries (c : StandingClass) : SessionM (Table Ref) :=
  match c.parameters? with
  | some names => do return [("__parameters__", ← newTuple (← names.mapM (newToken .typeVariable)))]
  | none => pure []

/-- What a class keeps to say what it leaves open is made in two parts. -/
theorem openEntries_eq (c : StandingClass) :
    openEntries c = do
      let missing ← missingEntries c
      let parameters ← parameterEntries c
      return missing ++ parameters := by
  unfold openEntries missingEntries parameterEntries
  cases c.missing? <;> cases c.parameters? <;> simp

/-- A class keeps what it keeps to say what it leaves open. -/
theorem openEntries_keep (tidy : s.Tidy) :
    Prepared (fun s' table => s'.Keep table c.openKinds) s (openEntries c) := by
  rw [openEntries_eq]
  refine Prepared.bind (P := fun s' table => s'.Keep table
    (if c.missing?.isSome then [("__abstractmethods__", .other)] else [])) ?_
    fun s₁ missing grown₁ tidy₁ keepMissing => ?_
  · unfold missingEntries
    cases c.missing? with
    | none => exact Prepared.pure tidy .nil
    | some names =>
      refine (Prepared.mapM_there tidy fun name _ s' _ tidy' => Prepared.newText tidy' name).bind
        fun s₁ texts _ tidy₁ there => ?_
      exact single_keep (Prepared.newCollection tidy₁ there)
  · refine Prepared.bind (P := fun s' table => s'.Keep table
      (if c.parameters?.isSome then [("__parameters__", .other)] else [])) ?_
      fun s₂ parameters grown₂ tidy₂ keepParameters => ?_
    · unfold parameterEntries
      cases c.parameters? with
      | none => exact Prepared.pure tidy₁ .nil
      | some names =>
        refine (Prepared.mapM_there tidy₁ fun name _ s' _ tidy' => newToken_there tidy' .typeVariable name).bind
          fun s₂ tokens _ tidy₂ there => ?_
        exact single_keep (Prepared.newTuple tidy₂ there)
    · exact Prepared.pure tidy₂ ((keepMissing.prepared grown₂).append keepParameters)

/-- What single classes keep besides is made, and of those that keep no named values it is known. -/
theorem furtherEntries_keep (tidy : s.Tidy) :
    Prepared (fun s' table => ∃ kinds, s'.Keep table kinds ∧ (c.isNaming = false → kinds = c.furtherKinds)) s
      (furtherEntries c) := by
  have known : ∀ {p : SessionM (Table Ref)} {kinds : Table Kept}, kinds = c.furtherKinds →
      Prepared (fun s' table => s'.Keep table kinds) s p →
      Prepared (fun s' table => ∃ kinds, s'.Keep table kinds ∧ (c.isNaming = false → kinds = c.furtherKinds)) s p :=
    fun same made => made.imp fun s' table _ _ keep => ⟨_, keep, fun _ => same⟩
  have shared : ∀ names : List String, c.isNaming = true →
      Prepared (fun s' table => ∃ kinds, s'.Keep table kinds ∧ (c.isNaming = false → kinds = c.furtherKinds)) s
        (sharedEntries names) := by
    intro names naming
    refine Prepared.get_bind (Prepared.pure tidy ⟨_, Session.keep_others fun entry member => ?_, by simp [naming]⟩)
    obtain ⟨name, -, found⟩ := List.mem_filterMap.mp member
    obtain ⟨r, own, rfl⟩ := Option.map_eq_some_iff.mp found
    exact tidy.own?_lt own
  have empty : ∀ s' : Session, ∀ entry ∈ ([] : Table Ref), entry.2 < s'.cells.size := by simp
  have noItems : AreThere s [] := fun r h => absurd h List.not_mem_nil
  unfold furtherEntries
  split
  · exact shared _ rfl
  · exact shared _ rfl
  · exact known rfl (single_keep (Prepared.newTuple tidy noItems))
  · refine known rfl ((Prepared.newTuple tidy noItems).bind fun s₁ slots _ tidy₁ isSlots => ?_)
    refine (Prepared.newAtom (v := .bool false) tidy₁ (by simp)).bind fun s₂ flag grown₂ tidy₂ isFlag => ?_
    exact Prepared.pure tidy₂ (.cons ⟨rfl, lt_of_lt_of_le isSlots grown₂.size⟩ (.cons ⟨rfl, isFlag.2⟩ .nil))
  · refine known rfl ((Prepared.newMapping tidy (empty s)).bind fun s₁ config _ tidy₁ isConfig => ?_)
    refine (Prepared.newMapping tidy₁ (empty s₁)).bind fun s₂ fields grown₂ tidy₂ isFields => ?_
    refine (Prepared.newMapping tidy₂ (empty s₂)).bind fun s₃ computed grown₃ tidy₃ isComputed => ?_
    refine (Prepared.absent tidy₃).bind fun s₄ extra grown₄ tidy₄ isExtra => ?_
    exact Prepared.pure tidy₄ (.cons ⟨rfl, lt_of_lt_of_le isConfig ((grown₂.trans grown₃).trans grown₄).size⟩
      (.cons ⟨rfl, lt_of_lt_of_le isFields (grown₃.trans grown₄).size⟩
        (.cons ⟨rfl, lt_of_lt_of_le isComputed grown₄.size⟩ (.cons ⟨rfl, isExtra⟩ .nil))))
  · have options : OfClasses (StandardCapability.mapping [("frozen", .bool true), ("extra", .str "forbid")]) := by
      refine ofClasses_mapping ?_
      exact List.forall_mem_cons.mpr ⟨.atom (by simp) rfl, List.forall_mem_singleton.mpr (ofClasses_text _)⟩
    refine known rfl ((Prepared.newValue options tidy).bind fun s₁ config _ tidy₁ isConfig => ?_)
    refine (newEntries_there (newToken .optionRecord) StandingClass.optionsShown tidy₁
      fun entry _ s' tidy' => newToken_there tidy' _ entry.2).bind fun s₂ shown grown₂ tidy₂ there => ?_
    refine (Prepared.newMapping tidy₂ there).bind fun s₃ fields grown₃ tidy₃ isFields => ?_
    exact Prepared.pure tidy₃ (.cons ⟨rfl, lt_of_lt_of_le isConfig (grown₂.trans grown₃).size⟩
      (.cons ⟨rfl, isFields⟩ .nil))
  · refine known ?_ (Prepared.pure tidy .nil)
    unfold StandingClass.furtherKinds
    split <;> simp_all

/-- A named value is made with its attributes. -/
theorem newNamed_there (tidy : s.Tidy) {type : Ref} (isType : type < s.cells.size) (v : Value) (place : Nat) :
    Prepared (fun s' table => ∀ entry ∈ table, entry.2 < s'.cells.size) s (newNamed type v place) := by
  unfold newNamed
  cases naming : v.naming with
  | none => exact Prepared.pure tidy (by simp)
  | some entry =>
    obtain ⟨name, content⟩ := entry
    have facts : v ≠ .tuple [] ∧ (Content.atom v).isNamed = true ∧ OfClasses content := by
      unfold Value.naming at naming
      split at naming
      · cases naming
        exact ⟨by simp, rfl, .atom (by simp) rfl⟩
      · cases naming
        exact ⟨by simp, rfl, ofClasses_text _⟩
      · cases naming
    obtain ⟨noTuple, named, ofClasses⟩ := facts
    refine (Prepared.newAtom tidy noTuple).bind fun s₁ r grown₁ tidy₁ isAtom => ?_
    have parts : ∀ entry ∈ [("_value_", content), ("_name_", .str name)], OfClasses entry.2 :=
      List.forall_mem_cons.mpr ⟨ofClasses, List.forall_mem_singleton.mpr (ofClasses_text name)⟩
    refine (newEntries_there newValue _ tidy₁ fun entry member s' tidy' =>
      Prepared.newValue (parts entry member) tidy').bind fun s₂ attributes grown₂ tidy₂ there => ?_
    have isNamed : (s₂.content r).isNamed = true := by
      rw [grown₂.contents r isAtom.2, isAtom.1, named]
    have refs : ∀ cell, s₂.cells[r]? = some cell → ∀ q ∈ Cell.refs { cell with
        attributes := attributes ++ [("__objclass__", type)] }, q < s₂.cells.size := by
      intro cell found q member
      simp only [Cell.refs, List.mem_append, List.map_append, List.map_cons, List.map_nil,
        List.mem_singleton] at member
      obtain (ofContent | ofTable | rfl) | ofMapping := member
      · exact tidy₂.cells r cell found q (by simp [Cell.refs, ofContent])
      · obtain ⟨entry, isEntry, rfl⟩ := List.mem_map.mp ofTable
        exact there entry isEntry
      · exact lt_of_lt_of_le isType (grown₁.trans grown₂).size
      · exact tidy₂.cells r cell found q (by simp [Cell.refs, ofMapping])
    refine Prepared.bind (Prepared.modifyCell tidy₂ (lt_of_lt_of_le isAtom.2 grown₂.size) isNamed
      (fun _ => rfl) (fun _ => rfl) refs) fun s₃ _ grown₃ tidy₃ stays => ?_
    refine (Prepared.newAtom (v := .int place) tidy₃ (by simp)).bind fun s₄ order grown₄ tidy₄ isOrder => ?_
    have isNamed₄ : (s₄.content r).isNamed = true := by
      rw [grown₄.contents r stays.2, stays.1, isNamed]
    refine (Prepared.putAttribute tidy₄ (lt_of_lt_of_le stays.2 grown₄.size) isNamed₄ isOrder.2).bind
      fun s₅ _ _ tidy₅ stays₅ => ?_
    exact Prepared.pure tidy₅ (List.forall_mem_singleton.mpr stays₅.2)

/-- The named values of a class are made. -/
theorem newMembers_there (tidy : s.Tidy) {type : Ref} (isType : type < s.cells.size) (values : List (Value × Nat)) :
    Prepared (fun s' tables => ∀ table ∈ tables, ∀ entry ∈ table, entry.2 < s'.cells.size) s
      (values.mapM fun (v, place) => newNamed type v place) :=
  Prepared.mapM_each tidy (fun _ _ _ grown there entry member => lt_of_lt_of_le (there entry member) grown.size)
    fun entry _ _ grown tidy' => newNamed_there tidy' (lt_of_lt_of_le isType grown.size) entry.1 entry.2

/-- Named values are made, each after what it stands for. -/
theorem newPairs_there (tidy : s.Tidy) {values : List Value}
    (contents : ∀ v ∈ values, OfClasses ((v.naming.map (·.2)).getD .none)) (noTuple : ∀ v ∈ values, v ≠ .tuple []) :
    Prepared (fun s' pairs => ∀ pair ∈ pairs, BothThere s' pair) s
      (values.mapM fun v => do return (← newValue ((v.naming.map (·.2)).getD .none), ← newAtom v)) := by
  refine Prepared.mapM_each tidy BothThere.prepared fun v member s' _ tidy' => ?_
  refine (Prepared.newValue (contents v member) tidy').bind fun s₁ first _ tidy₁ isFirst => ?_
  refine (Prepared.newAtom tidy₁ (noTuple v member)).bind fun s₂ second grown₂ tidy₂ isSecond => ?_
  exact Prepared.pure tidy₂ ⟨lt_of_lt_of_le isFirst grown₂.size, isSecond.2⟩

/-- What a class keeps of the named values is made. A class without any keeps nothing for them. -/
theorem namedEntries_keep (tidy : s.Tidy) :
    Prepared (fun s' table => ∃ kinds, s'.Keep table kinds ∧ (c.isNaming = false → kinds = [])) s
      (namedEntries c) := by
  unfold namedEntries
  by_cases empty : c.namedValues.isEmpty
  · simp only [empty, if_true]
    exact Prepared.pure tidy ⟨[], .nil, fun _ => rfl⟩
  · have naming : c.isNaming = true := by
      cases c <;> first | rfl | exact absurd rfl empty
    have noTuple : ∀ v ∈ c.namedValues, v ≠ .tuple [] := by
      cases c <;> simp [StandingClass.namedValues]
    have contents : ∀ v ∈ c.namedValues, OfClasses ((v.naming.map (·.2)).getD .none) := by
      cases c <;> simp [StandingClass.namedValues, Value.naming, ofClasses_text, ofClasses_int]
    simp only [empty]
    refine (Prepared.classObject tidy c.id).bind fun s₁ type _ tidy₁ isType => ?_
    refine (newMembers_there tidy₁ (tidy₁.shared _ type isType) c.namedValues.zipIdx).bind
      fun s₂ tables _ tidy₂ there => ?_
    have thereAll : ∀ entry ∈ tables.flatten, entry.2 < s₂.cells.size := by
      intro entry member
      obtain ⟨table, isTable, isEntry⟩ := List.mem_flatten.mp member
      exact there table isTable entry isEntry
    refine (newPairs_there tidy₂ contents noTuple).bind fun s₃ pairs grown₃ tidy₃ therePairs => ?_
    refine Prepared.get_bind ?_
    have thereAll₃ : ∀ entry ∈ tables.flatten, entry.2 < s₃.cells.size := fun entry member =>
      lt_of_lt_of_le (thereAll entry member) grown₃.size
    refine (Prepared.mapM_there tidy₃ fun entry _ s' _ tidy' => Prepared.newText tidy' entry.1).bind
      fun s₄ names grown₄ tidy₄ thereNames => ?_
    have refs : ∀ q ∈ (Content.list names).refs, q < s₄.cells.size := thereNames
    refine (Prepared.newPlain tidy₄ refs).bind fun s₅ listed grown₅ tidy₅ isListed => ?_
    refine (Prepared.newMapping tidy₅ fun entry member =>
      lt_of_lt_of_le (thereAll₃ entry member) (grown₄.trans grown₅).size).bind fun s₆ mapped grown₆ tidy₆ isMapped => ?_
    refine (Prepared.newPlain tidy₆ (refs_dict fun pair member =>
      (therePairs pair member).prepared _ _ _ ((grown₄.trans grown₅).trans grown₆))).bind
      fun s₇ byValue grown₇ tidy₇ isByValue => ?_
    refine (Prepared.classObject tidy₇ _).bind fun s₈ held grown₈ tidy₈ isHeld => ?_
    refine Prepared.pure tidy₈ ⟨_, Session.keep_others fun entry member => ?_, by simp [naming]⟩
    simp only [List.mem_append, List.mem_cons, List.not_mem_nil, or_false] at member
    obtain member | rfl | rfl | rfl | rfl := member
    · exact lt_of_lt_of_le (thereAll₃ entry member)
        ((((grown₄.trans grown₅).trans grown₆).trans grown₇).trans grown₈).size
    · exact lt_of_lt_of_le isListed.lt ((grown₆.trans grown₇).trans grown₈).size
    · exact lt_of_lt_of_le isMapped (grown₇.trans grown₈).size
    · exact lt_of_lt_of_le isByValue.lt grown₈.size
    · exact tidy₈.shared _ held isHeld

/-- What a standing class keeps to tell its module. -/
def homeEntries (c : StandingClass) : SessionM (Table Ref) :=
  if isFixed c.id then pure [] else do return [(Attribute.home, ← newText c.home)]

/-- What a standing class keeps to tell of the attributes of its objects. -/
def annotationEntries (c : StandingClass) : SessionM (Table Ref) :=
  if c.annotations.isEmpty then pure []
  else do return [("__annotations__", ← newMapping (← newEntries newAnnotation c.annotations))]

/-- What a class keeps of which the objects are never keys. -/
def unhashableEntries (isUnhashable : Bool) : SessionM (Table Ref) :=
  if isUnhashable then do return [(Action.name .hash, ← absent)] else pure []

/-- A standing class keeps its module, unless it never changes. -/
theorem homeEntries_keep (tidy : s.Tidy) :
    Prepared (fun s' table => s'.Keep table (if isFixed c.id then [] else [(Attribute.home, .other)])) s
      (homeEntries c) :=
  choice_keep (fun _ => Prepared.pure tidy .nil) fun _ => single_keep (Prepared.newText tidy c.home)

/-- A standing class keeps what it tells of the attributes of its objects. -/
theorem annotationEntries_keep (tidy : s.Tidy) :
    Prepared (fun s' table => s'.Keep table (if c.annotations.isEmpty then [] else [("__annotations__", .other)])) s
      (annotationEntries c) := by
  have ofClass : ∀ entry ∈ c.annotations, ∀ t, entry.2 = .inl t → t.isClass = true := by
    cases c <;> simp [StandingClass.annotations, StandingClass.annotations.typed, StandingClass.annotations.shared,
      StandingClass.annotations.anyNode, SemanticType.isClass]
  refine choice_keep (fun _ => Prepared.pure tidy .nil) fun _ => ?_
  refine (newEntries_there newAnnotation c.annotations tidy fun entry member s' tidy' => ?_).bind
    fun s₁ made _ tidy₁ there => single_keep (Prepared.newMapping tidy₁ there)
  cases found : entry.2 with
  | inl t =>
    have isClass := ofClass entry member t found
    exact (Prepared.typeObject tidy' isClass).imp fun s'' r _ tidy'' known => tidy''.shared _ r known
  | inr shown => exact newToken_there tidy' _ shown

/-- A class of which the objects are never keys keeps that. -/
theorem unhashableEntries_keep (tidy : s.Tidy) (isUnhashable : Bool) :
    Prepared (fun s' table => s'.Keep table (if isUnhashable then [(Action.name .hash, .other)] else [])) s
      (unhashableEntries isUnhashable) :=
  choice_keep (fun _ => single_keep (Prepared.absent tidy)) fun _ => Prepared.pure tidy .nil

/-- What the class of decimals keeps to tell its module. -/
def decimalEntries (t : SemanticType) : SessionM (Table Ref) :=
  if t = .decimal then do return [(Attribute.home, ← newText "decimal")] else pure []

/-- The class of decimals keeps its module. -/
theorem decimalEntries_keep (tidy : s.Tidy) (t : SemanticType) :
    Prepared (fun s' table => s'.Keep table (if t = .decimal then [(Attribute.home, .other)] else [])) s
      (decimalEntries t) :=
  choice_keep (fun _ => single_keep (Prepared.newText tidy _)) fun _ => Prepared.pure tidy .nil

/-- What a standing class keeps besides functions and members is made in ten parts. -/
theorem standingEntries_eq (c : StandingClass) :
    standingEntries c = do
      let home ← homeEntries c
      let annotations ← annotationEntries c
      let unhashable ← unhashableEntries c.isUnhashable
      let description ← newDescription (Documentation.ofClass c)
      let type ← typeEntries c
      let record ← recordEntries c
      let capability ← capabilityEntries c
      let named ← namedEntries c
      let leftOpen ← openEntries c
      let further ← furtherEntries c
      return home ++ [(Attribute.description, description)] ++ annotations ++ unhashable ++ type ++ record ++
        capability ++ named ++ leftOpen ++ further := by
  unfold standingEntries homeEntries annotationEntries unhashableEntries
  split <;> split <;> split <;> simp

/-- What a standing class keeps besides functions and members is of the kinds that are told beforehand. -/
theorem standingEntries_keep (tidy : s.Tidy) :
    Prepared (fun s' table => ∃ kinds, s'.Keep table kinds ∧ (c.isNaming = false → kinds = c.entryKinds)) s
      (standingEntries c) := by
  rw [standingEntries_eq]
  refine (homeEntries_keep tidy).bind fun s₁ home _ tidy₁ keepHome => ?_
  refine (annotationEntries_keep tidy₁).bind fun s₂ annotations grown₂ tidy₂ keepAnnotations => ?_
  refine (unhashableEntries_keep tidy₂ _).bind fun s₃ unhashable grown₃ tidy₃ keepUnhashable => ?_
  refine (newDescription_there tidy₃ _).bind fun s₄ description grown₄ tidy₄ isDescription => ?_
  have keep₄ := (((keepHome.prepared ((grown₂.trans grown₃).trans grown₄)).append
    (Session.keep_other Attribute.description isDescription)).append (keepAnnotations.prepared (grown₃.trans grown₄))).append
    (keepUnhashable.prepared grown₄)
  refine (typeEntries_keep tidy₄).bind fun s₅ type grown₅ tidy₅ keepType => ?_
  have keep₅ := (keep₄.prepared grown₅).append keepType
  refine (recordEntries_keep tidy₅).bind fun s₆ record grown₆ tidy₆ keepRecord => ?_
  have keep₆ := (keep₅.prepared grown₆).append keepRecord
  refine (capabilityEntries_keep tidy₆).bind fun s₇ capability grown₇ tidy₇ keepCapability => ?_
  have keep₇ := (keep₆.prepared grown₇).append keepCapability
  refine (namedEntries_keep tidy₇).bind fun s₈ named grown₈ tidy₈ keepNamed => ?_
  obtain ⟨namedKinds, keepNamed, noneNamed⟩ := keepNamed
  have keep₈ := (keep₇.prepared grown₈).append keepNamed
  refine (openEntries_keep tidy₈).bind fun s₉ leftOpen grown₉ tidy₉ keepOpen => ?_
  have keep₉ := (keep₈.prepared grown₉).append keepOpen
  refine (furtherEntries_keep tidy₉).bind fun s₁₀ further grown₁₀ tidy₁₀ keepFurther => ?_
  obtain ⟨furtherKinds, keepFurther, onlyFurther⟩ := keepFurther
  have keep₁₀ := (keep₉.prepared grown₁₀).append keepFurther
  refine Prepared.pure tidy₁₀ ⟨_, keep₁₀, fun unnamed => ?_⟩
  rw [noneNamed unnamed, onlyFurther unnamed, List.append_nil]
  rfl

/-- What a built-in class keeps besides members is of the kinds that are told beforehand. -/
theorem builtInEntries_keep (tidy : s.Tidy) (t : SemanticType) :
    Prepared (fun s' table => s'.Keep table ((if t = .decimal then [(Attribute.home, .other)] else []) ++
      [(Attribute.description, .other)] ++ if t.isUnhashable then [(Action.name .hash, .other)] else [])) s
      (builtInEntries t) := by
  have inParts : builtInEntries t = do
      let unhashable ← unhashableEntries t.isUnhashable
      let home ← decimalEntries t
      let description ← newDescription (Documentation.ofBuiltIn t)
      return home ++ [(Attribute.description, description)] ++ unhashable := by
    unfold builtInEntries unhashableEntries decimalEntries
    split <;> split <;> simp
  rw [inParts]
  refine (unhashableEntries_keep tidy _).bind fun s₁ unhashable _ tidy₁ keepUnhashable => ?_
  refine (decimalEntries_keep tidy₁ t).bind fun s₂ home grown₂ tidy₂ keepHome => ?_
  refine (newDescription_there tidy₂ _).bind fun s₃ description grown₃ tidy₃ isDescription => ?_
  exact Prepared.pure tidy₃ (((keepHome.prepared grown₃).append (Session.keep_other _ isDescription)).append
    (keepUnhashable.prepared (grown₂.trans grown₃)))

/-- A standing class is filled with what is of the kinds that are told beforehand. -/
theorem filling_keep (tidy : s.Tidy) :
    Prepared (fun s' table => ∃ kinds, s'.Keep table kinds ∧ (c.isNaming = false → kinds = c.kinds)) s (do
      let functions ← c.functions.mapM fun f => do return (f.action.name, ← newObject (.function f) [])
      let members ← newEntries (fun m => newObject (.member m) []) c.members
      return functions ++ members ++ (← standingEntries c)) := by
  have stays : ∀ (s' s'' : Session) (f : Function) (entry : String × Ref), s'.PreparedTo s'' →
      entry.1 = f.action.name ∧ s'.IsPlain entry.2 (.function f) →
      entry.1 = f.action.name ∧ s''.IsPlain entry.2 (.function f) :=
    fun s' s'' f entry grown h => ⟨h.1, grown.isPlain h.2 rfl⟩
  refine (Prepared.mapM tidy (fun f _ s' _ tidy' => ?_) stays).bind fun s₁ functions _ tidy₁ areFunctions => ?_
  · refine (Prepared.newPlain tidy' (by simp [Content.refs])).bind fun s₁ r _ tidy₁ isFunction => ?_
    exact Prepared.pure tidy₁ ⟨rfl, isFunction⟩
  · have keepFunctions : s₁.Keep functions c.functionKinds := List.forall₂_map_right_iff.mpr areFunctions.flip
    have members : Prepared (fun s' table => s'.Keep table c.memberKinds) s₁
        (newEntries (fun m => newObject (.member m) []) c.members) :=
      newEntries_keep Kept.member tidy₁ fun entry _ s' _ tidy' =>
        Prepared.newPlain tidy' (by simp [Content.refs])
    refine members.bind fun s₂ members grown₂ tidy₂ keepMembers => ?_
    refine standingEntries_keep tidy₂ |>.bind fun s₃ entries grown₃ tidy₃ keepEntries => ?_
    obtain ⟨kinds, keepEntries, known⟩ := keepEntries
    refine Prepared.pure tidy₃ ⟨_, (((keepFunctions.prepared grown₂).append keepMembers).prepared grown₃).append
      keepEntries, fun unnamed => ?_⟩
    rw [known unnamed]
    rfl

/-- A built-in class is filled with what is of the kinds that are told beforehand. -/
theorem fillingBuiltIn_keep (tidy : s.Tidy) (id : ClassId) (t : SemanticType) :
    Prepared (fun s' table => s'.Keep table (t.kinds id)) s (do
      let members ← newEntries (fun m => newObject (.member m) []) (Member.ofBuiltIn id t)
      return members ++ (← builtInEntries t)) := by
  have members : Prepared (fun s' table => s'.Keep table
      ((Member.ofBuiltIn id t).map fun entry => (entry.1, Kept.member entry.2))) s
      (newEntries (fun m => newObject (.member m) []) (Member.ofBuiltIn id t)) :=
    newEntries_keep Kept.member tidy fun entry _ s' _ tidy' =>
      Prepared.newPlain tidy' (by simp [Content.refs])
  refine members.bind fun s₁ members _ tidy₁ keepMembers => ?_
  refine (builtInEntries_keep tidy₁ t).bind fun s₂ entries grown₂ tidy₂ keepEntries => ?_
  exact Prepared.pure tidy₂ ((keepMembers.prepared grown₂).append keepEntries)

end SessionM

end FilterAlgebra
