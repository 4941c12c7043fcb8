import FilterAlgebra.Proofs.Adapters
import FilterAlgebra.Proofs.BundleObjects

/-!
# Adapters as objects

What a set of adapters does is stated once, in `Search`, for operands and types of any
kind. In a session the types are objects, and so are the adapters, which are asked by
name whether they accept an operand and what they make of it. An object acts as an
adapter, `Session.ActsAs`, if from now on it answers as the adapter does; raw adapters
of objects that act as capabilities do, and so do identity adapters. A set of such
objects compares and joins objects as `AdapterSet` does their values.
-/

set_option autoImplicit false

namespace FilterAlgebra

namespace Session

/-- From now on an object does what an adapter does, asked by calls that may go as deep as given. -/
structure ActsAs (s : Session) (n : Nat) (r : Ref) (a : Adapter) : Prop where
  lt : r < s.cells.size
  present : s.isNone r = false
  typed : ∀ s', s.ExtendedBy s' → s'.InOrder → ∃ q,
    (SessionM.attributeOf r Attribute.target).runIn s' = (.ok q, s') ∧ s'.IsType q a.target
  accepts : ∀ s' x v m, s.ExtendedBy s' → s'.InOrder → s'.Stands x v → n ≤ m →
    SessionM.Simulates (fun s'' q b => s''.IsPlain q (.atom (.bool b))) s'
      (SessionM.request (SessionM.callWithin m) r .accepts [x]) (Traced.ofFault (a.accepts v))
  converts : ∀ s' x v m, s.ExtendedBy s' → s'.InOrder → s'.Stands x v → n ≤ m →
    SessionM.Simulates Stands s' (SessionM.request (SessionM.callWithin m) r .toExpression [x]) (a.toExpression v)

/-- An object is a set of objects that act as adapters. -/
def IsAdapterSet (s : Session) (n : Nat) (r : Ref) (set : AdapterSet) : Prop :=
  ∃ m members, s.IsObject r .adapterSet [(Attribute.adapters, m)] ∧ s.IsPlain m (.tuple members) ∧
    List.Forall₂ (s.ActsAs n) members set.adapters

variable {s s' : Session} {r x : Ref} {n : Nat} {v : Value}

/-- An object goes on acting as an adapter. -/
theorem ActsAs.extended {a : Adapter} (h : s.ActsAs n r a) (extended : s.ExtendedBy s') : s'.ActsAs n r a where
  lt := h.lt.trans_le extended.size
  present := by
    have same := h.present
    unfold isNone at *
    rwa [extended.content_eq h.lt]
  typed s'' extended' := h.typed s'' (extended.trans extended')
  accepts s'' x v m extended' := h.accepts s'' x v m (extended.trans extended')
  converts s'' x v m extended' := h.converts s'' x v m (extended.trans extended')

/-- A set of adapters stays one. -/
theorem IsAdapterSet.extended {set : AdapterSet} (h : s.IsAdapterSet n r set) (extended : s.ExtendedBy s') :
    s'.IsAdapterSet n r set := by
  obtain ⟨m, members, object, isTuple, act⟩ := h
  exact ⟨m, members, object.extended extended, isTuple.extended extended, act.imp fun _ _ h => h.extended extended⟩

/-- A set of adapters is an object with one attribute. -/
theorem IsAdapterSet.isObject {set : AdapterSet} (h : s.IsAdapterSet n r set) :
    ∃ m, s.IsObject r .adapterSet [(Attribute.adapters, m)] := by
  obtain ⟨m, _, object, -⟩ := h
  exact ⟨m, object⟩

/-- Whether a class is among some classes is whether its type is among theirs. -/
theorem contains_classes {t : SemanticType} {items : List Ref} {types : List SemanticType} (isType : s.IsType r t)
    (known : List.Forall₂ s.IsType items types) : s.contains r items = .ok (decide (t ∈ types)) := by
  induction known with
  | nil => rfl
  | @cons q u items types first _ ih =>
    rw [contains, Equality.orSame]
    by_cases same : q = r
    · have types' : u = t := (first.ref_eq_iff isType).mp same
      simp only [same, if_true, types', List.mem_cons, true_or, decide_true]
      rfl
    · have types' : t ≠ u := Ne.symm (mt (first.ref_eq_iff isType).mpr same)
      obtain ⟨id, isClass, -⟩ := first
      obtain ⟨id', isClass', -⟩ := isType
      rw [if_neg same, isClass.equal_eq isClass']
      simp only [beq_eq_false_iff_ne.mpr same, List.mem_cons, types', false_or]
      exact ih

end Session

namespace SessionM

variable {s s' : Session} {r x : Ref} {n m : Nat} {v : Value}

section Members

variable {k type : Ref} {t : SemanticType} {c : Capability}

/-- A raw adapter acts as one of the capability that its own capability acts as. -/
theorem rawAdapter_acts (order : s.InOrder)
    (object : s.IsObject r .rawAdapter [(Attribute.capability, k), (Attribute.target, type)])
    (acts : s.Acts n k c) (isType : s.IsType type c.type) : s.ActsAs (n + 2) r (.raw c) where
  lt := object.lt
  present := by simp [Session.isNone, object.content_eq]
  typed s' extended order' :=
    ⟨type, runIn_attributeOf_own ((object.extended extended).content_eq ▸ rfl) (by decide)
      ((object.extended extended).attribute?_eq _), isType.extended extended order.toClosed⟩
  accepts s' x v m extended order' h deep := by
    obtain ⟨m, rfl⟩ := Nat.exists_eq_add_of_le' (Nat.le_trans (Nat.le_add_left 2 n) deep)
    have object' := object.extended extended
    refine scope_simulates (n := m) order' .accepts [x] (by simp [StandingClass.offers]) object' rfl (Nat.le_refl 1)
      (Nat.le_refl 1) fun s₁ extended₁ order₁ => ?_
    have h₁ := h.extended extended₁ order'.toClosed
    have object₁ := object'.extended extended₁
    show Simulates _ s₁ (rawAccepts (callWithin m) r x) (pure (!v.isNode && c.accepts v))
    unfold rawAccepts
    refine Simulates.get (Makes.simulates ?_)
    rw [h₁.isNode]
    cases node : v.isNode with
    | true => exact newAtom_makes order₁ fun key known => Value.content?_of_isSimple rfl known
    | false =>
      have own : (attributeOf r Attribute.capability).runIn s₁ = (.ok k, s₁) :=
        runIn_attributeOf_own (object₁.content_eq ▸ rfl) (by decide) (object₁.attribute?_eq _)
      refine Makes.read own ?_
      exact acts.accepts s₁ x v m (extended.trans extended₁) order₁ h₁ (Nat.le_of_add_le_add_right deep)
  converts s' x v m extended order' h deep := by
    obtain ⟨m, rfl⟩ := Nat.exists_eq_add_of_le' (Nat.le_trans (Nat.le_add_left 2 n) deep)
    have object' := object.extended extended
    refine scope_simulates (n := m) order' .toExpression [x] (by simp [StandingClass.offers]) object' rfl
      (Nat.le_refl 1) (Nat.le_refl 1) fun s₁ extended₁ order₁ => ?_
    have object₁ := object'.extended extended₁
    have own : (attributeOf r Attribute.capability).runIn s₁ = (.ok k, s₁) :=
      runIn_attributeOf_own (object₁.content_eq ▸ rfl) (by decide) (object₁.attribute?_eq _)
    refine Simulates.read own ?_
    exact acts.converts s₁ x v m (extended.trans extended₁) order₁ (h.extended extended₁ order'.toClosed)
      (Nat.le_of_add_le_add_right deep)

/-- A truth value is made for what a run says. -/
theorem newTruth_simulates (order : s.InOrder) (b : Bool) :
    Simulates (fun s' q b => s'.IsPlain q (.atom (.bool b))) s (newAtom (.bool b)) (pure b) := by
  refine Makes.simulates (newAtom_makes order fun _ known => ?_)
  exact Value.content?_of_isSimple rfl known

/-- A node is of the very type of an adapter if it shows the class for it. -/
theorem sameType_eq {q : Ref} (isType : s.IsType type t) (only : ∀ id, s.content q = .type id → s.IsClass q id) :
    (q == type) = decide (s.typeOf q = t) := by
  obtain ⟨id', isClass', rfl⟩ := isType
  by_cases same : q = type
  · subst same
    simp [isClass'.typeOf]
  · have different : s.typeOf q ≠ s.classType id' := by
      intro ofType
      unfold Session.typeOf Snapshot.typeOf at ofType
      have classes := s.isClass_classType id'
      split at ofType
      · rename_i id content
        obtain rfl := s.classType_inj.mp ofType
        exact same (((only id content).ref_eq_iff isClass').mpr rfl)
      · rw [← ofType] at classes
        cases classes
      · rw [← ofType] at classes
        cases classes
    simp [same, different]

/-- Whether a node is of the very type that an identity adapter takes. -/
theorem identityAccepts_simulates (order : s.InOrder) (h : s.Stands x v)
    (object : s.IsObject r .identityAdapter [(Attribute.target, type)]) (isType : s.IsType type t) :
    Simulates (fun s' q b => s'.IsPlain q (.atom (.bool b))) s (identityAccepts r x)
      (Traced.ofFault ((Adapter.identity t).accepts v)) := by
  have own : (attributeOf r Attribute.target).runIn s = (.ok type, s) :=
    runIn_attributeOf_own (object.content_eq ▸ rfl) (by decide) (object.attribute?_eq _)
  unfold identityAccepts
  refine Simulates.get ?_
  rw [h.isNode, Adapter.accepts]
  cases node : v.isNode with
  | false => exact newTruth_simulates order false
  | true =>
    obtain ⟨id, content, noModel, hasType⟩ := h.typed node
    obtain ⟨q, shown, typed, only⟩ | ⟨f, shown, typed⟩ := runIn_typeAttribute content noModel hasType
    · rw [typed]
      refine Simulates.read shown (Simulates.read own ?_)
      rw [sameType_eq isType only]
      exact newTruth_simulates order _
    · rw [typed]
      have blames : Setback.Blames ⟨.fault f, none⟩ s := fun _ same => by cases same
      refine ⟨_, s, ?_, growsTo_refl order, .failure blames⟩
      rw [if_pos rfl, runIn_bind, shown]

/-- An identity adapter acts as one. -/
theorem identityAdapter_acts (order : s.InOrder)
    (object : s.IsObject r .identityAdapter [(Attribute.target, type)]) (isType : s.IsType type t) :
    s.ActsAs (n + 2) r (.identity t) where
  lt := object.lt
  present := by simp [Session.isNone, object.content_eq]
  typed s' extended order' :=
    ⟨type, runIn_attributeOf_own ((object.extended extended).content_eq ▸ rfl) (by decide)
      ((object.extended extended).attribute?_eq _), isType.extended extended order.toClosed⟩
  accepts s' x v m extended order' h deep := by
    obtain ⟨m, rfl⟩ := Nat.exists_eq_add_of_le' (Nat.le_trans (Nat.le_add_left 2 n) deep)
    have object' := object.extended extended
    refine scope_simulates (n := m) order' .accepts [x] (by simp [StandingClass.offers]) object' rfl (Nat.le_refl 1)
      (Nat.le_refl 1) fun s₁ extended₁ order₁ => ?_
    exact identityAccepts_simulates order₁ (h.extended extended₁ order'.toClosed) (object'.extended extended₁)
      (isType.extended (extended.trans extended₁) order.toClosed)
  converts s' x v m extended order' h deep := by
    obtain ⟨m, rfl⟩ := Nat.exists_eq_add_of_le' (Nat.le_trans (Nat.le_add_left 2 n) deep)
    refine scope_simulates (n := m) order' .toExpression [x] (by simp [StandingClass.offers])
      (object.extended extended) rfl (Nat.le_refl 1) (Nat.le_refl 1) fun s₁ extended₁ order₁ => ?_
    exact .pure order₁ (h.extended extended₁ order'.toClosed)

end Members

section Search

variable {type : Ref} {t : SemanticType} {set : AdapterSet}

/-- Whether an object accepts another one is whether the adapter does that it acts as. -/
theorem isAccepted_simulates {a : Adapter} (order : s.InOrder) (acts : s.ActsAs n r a) (h : s.Stands x v)
    (deep : n ≤ m) :
    Simulates (fun _ b b' => b = b') s (isAccepted (callWithin m) r x) (Traced.ofFault (a.accepts v)) := by
  rw [← bind_pure (Traced.ofFault (a.accepts v))]
  refine (acts.accepts s x v m (.refl s) order h deep).bind fun s₁ q b _ order₁ isTruth => ?_
  refine ⟨_, s₁, runIn_truthOf isTruth, growsTo_refl order₁, .result ?_⟩
  cases b <;> rfl

/-- The first of some objects that leads to a type and accepts an operand acts as the first such adapter. -/
theorem firstLeading_simulates {members : List Ref} {adapters : List Adapter} (order : s.InOrder)
    (h : s.Stands x v) (isType : s.IsType type t) (act : List.Forall₂ (s.ActsAs n) members adapters)
    (deep : n ≤ m) :
    Simulates (fun s' => Option.Rel (s'.ActsAs n)) s
      (Search.firstAccepting (attributeOf · Attribute.target) (isAccepted (callWithin m)) x type members)
      (Search.firstAccepting (fun a => pure a.target) (fun a v => Traced.ofFault (a.accepts v)) v t adapters) := by
  induction members generalizing s adapters with
  | nil =>
    cases act
    exact .pure order .none
  | cons member members ih =>
    cases act with
    | @cons _ a _ adapters first others =>
      obtain ⟨q, shown, target⟩ := first.typed s (.refl s) order
      simp only [Search.firstAccepting, pure_bind]
      refine Simulates.read shown ?_
      by_cases leads : a.target = t
      · rw [if_pos ((target.ref_eq_iff isType).mpr leads), if_pos leads]
        refine (isAccepted_simulates order first h deep).bind fun s₁ accepted _ extended order₁ same => ?_
        subst same
        cases accepted with
        | true => exact .pure order₁ (.some (first.extended extended))
        | false =>
          exact ih order₁ (h.extended extended order.toClosed) (isType.extended extended order.toClosed)
            (others.imp fun _ _ h => h.extended extended)
      · rw [if_neg (mt (target.ref_eq_iff isType).mp leads), if_neg leads]
        exact ih order h isType others

/-- What an object is, unless it is the absent value. -/
def Present {α : Type} (R : Session → Ref → α → Prop) (s : Session) (r : Ref) : Option α → Prop :=
  Option.Rel (R s) (if s.isNone r then none else some r)

/-- What is not the absent value is present. -/
theorem present_some {α : Type} {R : Session → Ref → α → Prop} {a : α} (related : R s r a)
    (notNone : s.isNone r = false) : Present R s r (some a) := by
  simp only [Present, notNone, Bool.false_eq_true, if_false]
  exact .some related

/-- The absent value is made where there is nothing. -/
theorem absent_simulates {α : Type} {R : Session → Ref → α → Prop} (order : s.InOrder) :
    Simulates (Present R) s absent (pure none) := by
  refine Makes.simulates ((absent_makes order).imp fun s₁ q _ _ isNone => ?_)
  simp only [Present, Session.isNone, isNone.content_eq, if_true]
  exact .none

/-- The absent value is told from all others. -/
theorem present?_simulates {α : Type} {R : Session → Ref → α → Prop} {p : SessionM Ref}
    {run : Traced (Option α)} (h : Simulates (Present R) s p run) :
    Simulates (fun s' => Option.Rel (R s')) s (do present? (← p)) run := by
  rw [← bind_pure run]
  refine h.bind fun s₁ r a _ order₁ isPresent => ?_
  exact ⟨_, s₁, rfl, growsTo_refl order₁, .result isPresent⟩

/-- An operand is resolved as its value is. -/
theorem resolveIn_simulates (order : s.InOrder) (isSet : s.IsAdapterSet n r set) (h : s.Stands x v)
    (isType : s.IsType type t) (deep : n ≤ m) :
    Simulates (Present fun s' q a => s'.ActsAs n q a) s (resolveIn (callWithin m) r x type) (set.resolve v t) := by
  obtain ⟨q, members, object, isTuple, act⟩ := isSet
  unfold resolveIn
  refine Simulates.read (runIn_membersOf object (by decide) rfl isTuple) ?_
  rw [← bind_pure (set.resolve v t)]
  refine (firstLeading_simulates order h isType act deep).bind fun s₁ _ _ _ order₁ found => ?_
  cases found with
  | some acts => exact .pure order₁ (present_some acts acts.present)
  | none => exact absent_simulates order₁

/-- A set of adapters that is asked to resolve an operand does as it does with the value. -/
theorem requestResolve_simulates (order : s.InOrder) (isSet : s.IsAdapterSet n r set) (h : s.Stands x v)
    (isType : s.IsType type t) (deep : n ≤ m) :
    Simulates (fun s' => Option.Rel (s'.ActsAs n)) s
      (do present? (← request (callWithin (m + 2)) r .resolve [x, type])) (set.resolve v t) := by
  obtain ⟨q, object⟩ := isSet.isObject
  refine present?_simulates (scope_simulates (n := m) order .resolve [x, type] (by simp [StandingClass.offers])
    object rfl (Nat.le_refl 2) (Nat.le_refl 2) fun s₁ extended order₁ => ?_)
  exact resolveIn_simulates order₁ (isSet.extended extended) (h.extended extended order.toClosed)
    (isType.extended extended order.toClosed) deep

/-- The types that some objects lead to, each once, are those of the adapters that they act as. -/
theorem runIn_distinctTypes {members : List Ref} {adapters : List Adapter} (order : s.InOrder)
    (act : List.Forall₂ (s.ActsAs n) members adapters) {seen : List Ref} {types : List SemanticType}
    (known : List.Forall₂ s.IsType seen types) :
    ∃ items, (members.foldlM addTarget seen).runIn s = (.ok items, s) ∧
      List.Forall₂ s.IsType items
        ((adapters.map (·.target)).foldl (fun seen type => if type ∈ seen then seen else seen ++ [type]) types) := by
  induction act generalizing seen types with
  | nil => exact ⟨seen, rfl, known⟩
  | @cons member a members adapters first _ ih =>
    obtain ⟨q, shown, target⟩ := first.typed s (.refl s) order
    have step : (addTarget seen member).runIn s =
        (.ok (if a.target ∈ types then seen else seen ++ [q]), s) := by
      rw [addTarget, runIn_bind_of_ok shown, runIn_get_bind, Session.contains_classes target known]
      by_cases member : a.target ∈ types <;> simp only [member, decide_true, decide_false] <;> rfl
    rw [List.foldlM_cons, runIn_bind_of_ok step, List.map_cons, List.foldl_cons]
    by_cases member : a.target ∈ types
    · simp only [member, if_true]
      exact ih known
    · simp only [member, if_false]
      exact ih (List.rel_append known (.cons target .nil))

/-- A set of adapters tells the types within its reach. -/
theorem targets_simulates (order : s.InOrder) (isSet : s.IsAdapterSet n r set) :
    Simulates (fun s' => List.Forall₂ s'.IsType) s (searchOf (callWithin (m + 2)) r).targets
      set.search.targets := by
  obtain ⟨q, object⟩ := isSet.isObject
  obtain ⟨s₁, comesTo⟩ := scope_comesTo (n := m) order .targetTypes [] (by simp [StandingClass.offers]) object rfl
    (Nat.le_refl 0) (Nat.le_refl 0)
  have order₁ := comesTo.1.order
  obtain ⟨q, members, object₁, isTuple, act⟩ := isSet.extended comesTo.1.extended
  obtain ⟨items, distinct, known⟩ := runIn_distinctTypes order₁ act .nil
  have listed : Makes (fun s' q => s'.IsPlain q (.list items) ∧ List.Forall₂ s'.IsType items set.targetTypes) s₁
      (targetTypes r) := by
    refine Makes.read (runIn_membersOf object₁ (by decide) rfl isTuple) (Makes.read distinct ?_)
    have there : List.Forall₂ (fun q t => q < s₁.cells.size ∧ s₁.IsType q t) items set.targetTypes :=
      known.imp fun q t isType => ⟨isType.lt, isType⟩
    have refs : ∀ q ∈ (Content.list items).refs, q < s₁.cells.size := ((List.forall₂_and_left _ _).mp there).1
    refine (Makes.newPlain order₁ refs).imp fun s₂ q extended _ isList => ?_
    exact ⟨isList, known.imp fun _ _ isType => isType.extended extended order₁.toClosed⟩
  refine Makes.simulates ((comesTo.makes listed).bind fun s₂ q _ order₂ isList => ?_)
  refine ⟨items, s₂, ?_, growsTo_refl order₂, isList.2⟩
  rw [itemsOf, runIn_get_bind, isList.1.content_eq]
  rfl

/-- The type of filters is the class of truth values. -/
theorem truth_makes (order : s.InOrder) : Makes (fun s' q => s'.IsType q .bool) s (typeObject .bool) :=
  typeObject_makes order ⟨StandingClass.builtIn .bool, rfl⟩

/-- A new join under a sign that is there stands for the join of what its operands stand for. -/
theorem joinObjects_makes {l sign : Ref} {w : Value} {word : String} (order : s.InOrder) (left : s.Stands l w)
    (right : s.Stands x v) (isSign : s.IsPlain sign (.atom (.str word))) :
    Makes (fun s' j => s'.Stands j (.node (.binary w word v .bool))) s
      (do newBinary l sign x (← typeObject .bool)) := by
  refine (Makes.classObject order _).bind fun s₁ type extended order₁ isType => ?_
  exact newBinary_makes order₁ (left.extended extended order.toClosed) (right.extended extended order.toClosed)
    (isSign.extended extended) isType

/-- Two operands are joined at a type by the adapters that are found for them, if both are found. -/
theorem combineBy_simulates {l sign : Ref} {w : Value} {word : String} (order : s.InOrder)
    (isSet : s.IsAdapterSet n r set) (left : s.Stands l w) (isSign : s.IsPlain sign (.atom (.str word)))
    (right : s.Stands x v) (isType : s.IsType type t) (deep : n ≤ m) :
    Simulates (fun s' => Option.Rel s'.Stands) s
      (Search.combineBy (fun operand type => do present? (← request (callWithin (m + 2)) r .resolve [operand, type]))
        (fun adapter operand => request (callWithin (m + 2)) adapter .toExpression [operand])
        (fun left right => do newBinary left sign right (← typeObject .bool)) l x type)
      (set.search.combine w word v t) := by
  refine (requestResolve_simulates order isSet left isType deep).bind fun s₁ _ _ extended₁ order₁ foundLeft => ?_
  have right₁ := right.extended extended₁ order.toClosed
  have isSet₁ := isSet.extended extended₁
  have isType₁ := isType.extended extended₁ order.toClosed
  refine (requestResolve_simulates order₁ isSet₁ right₁ isType₁ deep).bind
    fun s₂ _ _ extended₂ order₂ foundRight => ?_
  have extended := extended₁.trans extended₂
  cases foundLeft with
  | none => exact .pure order₂ .none
  | some actsLeft =>
    cases foundRight with
    | none => exact .pure order₂ .none
    | some actsRight =>
      have deep' : n ≤ m + 2 := Nat.le_add_right_of_le deep
      refine (actsLeft.converts s₂ l w _ extended₂ order₂ (left.extended extended order.toClosed) deep').bind
        fun s₃ q u extended₃ order₃ stands => ?_
      refine (actsRight.converts s₃ x v _ extended₃ order₃
        (right₁.extended (extended₂.trans extended₃) order₁.toClosed) deep').bind
          fun s₄ q' u' extended₄ order₄ stands' => ?_
      have stands₄ := stands.extended extended₄ order₃.toClosed
      have isSign₄ := isSign.extended (extended.trans (extended₃.trans extended₄))
      simp only [map_eq_pure_bind]
      refine Simulates.made (joinObjects_makes order₄ stands₄ stands' isSign₄) fun s₅ j _ order₅ joined => ?_
      exact .pure order₅ (.some joined)

/-- What two operands are joined to is a node. -/
theorem isNode_of_combine {w u : Value} {word : String}
    (joined : (set.search.combine w word v t).result = .ok (some u)) : u.isNode = true := by
  obtain ⟨typedLeft, typedRight⟩ := AdapterSet.typed_of_combine joined
  obtain ⟨_, _, -, -, rfl⟩ := (AdapterSet.combine_eq_ok_iff typedLeft typedRight).mp joined
  rfl

/-- An object that stands for a node is not the absent value. -/
theorem isNone_of_isNode (h : s.Stands x v) (node : v.isNode = true) : s.isNone x = false := by
  obtain ⟨id, content, -⟩ := h.typed node
  simp only [Session.isNone, content]

/-- Two operands are joined at a type as their values are. -/
theorem combineIn_simulates {l sign : Ref} {w : Value} {word : String} (order : s.InOrder)
    (isSet : s.IsAdapterSet n r set) (left : s.Stands l w) (isSign : s.IsPlain sign (.atom (.str word)))
    (right : s.Stands x v) (isType : s.IsType type t) (deep : n ≤ m) :
    Simulates (Present Session.Stands) s (combineIn (callWithin (m + 2)) r l sign x type)
      (set.search.combine w word v t) := by
  have combined := (combineBy_simulates order isSet left isSign right isType deep).known
    (K := fun found => ∀ u, found = some u → u.isNode = true)
    fun found ends u same => isNode_of_combine (same ▸ ends)
  rw [← bind_pure (set.search.combine w word v t)]
  refine combined.bind fun s₁ _ _ _ order₁ joined => ?_
  obtain ⟨joined, isNode⟩ := joined
  cases joined with
  | some stands => exact .pure order₁ (present_some stands (isNone_of_isNode stands (isNode _ rfl)))
  | none => exact absent_simulates order₁

/-- A set of adapters that is asked to join two operands does as it does with their values. -/
theorem combine_simulates {l : Ref} {w : Value} {word : String} (order : s.InOrder) (isSet : s.IsAdapterSet n r set)
    (left : s.Stands l w) (right : s.Stands x v) (isType : s.IsType type t) (deep : n ≤ m) :
    Simulates (fun s' => Option.Rel s'.Stands) s ((searchOf (callWithin (m + 4)) r).combine l word x type)
      (set.search.combine w word v t) := by
  show Simulates _ s (do
    let sign ← wordObject word
    present? (← request (callWithin (m + 4)) r .combine [l, sign, x, type])) _
  refine Simulates.made (wordObject_makes order word) fun s₁ sign extended₁ order₁ isSign => ?_
  obtain ⟨q, object⟩ := (isSet.extended extended₁).isObject
  refine present?_simulates (scope_simulates (n := m + 2) order₁ .combine [l, sign, x, type]
    (by simp [StandingClass.offers]) object rfl (Nat.le_refl 4) (Nat.le_refl 4) fun s₂ extended₂ order₂ => ?_)
  have extended := extended₁.trans extended₂
  exact combineIn_simulates order₂ (isSet.extended extended) (left.extended extended order.toClosed)
    (isSign.extended extended₂) (right.extended extended order.toClosed) (isType.extended extended order.toClosed) deep

/-- Whether an operand reaches a type is whether its value does. -/
theorem reaches_simulates (order : s.InOrder) (isSet : s.IsAdapterSet n r set) (h : s.Stands x v)
    (isType : s.IsType type t) (deep : n ≤ m) :
    Simulates (fun _ b b' => b = b') s ((searchOf (callWithin (m + 2)) r).reaches x type)
      (set.search.reaches v t) := by
  show Simulates _ s (Option.isSome <$> _) (Option.isSome <$> _)
  rw [map_eq_pure_bind, map_eq_pure_bind]
  refine (requestResolve_simulates order isSet h isType deep).bind fun s₁ _ _ _ order₁ resolved => .pure order₁ ?_
  cases resolved <;> rfl

/-- Two operands are joined at the first type within reach of both, as their values are. -/
theorem combineFirst_simulates {l : Ref} {w : Value} {word : String} {items : List Ref} {types : List SemanticType}
    (order : s.InOrder) (isSet : s.IsAdapterSet n r set) (left : s.Stands l w) (right : s.Stands x v)
    (known : List.Forall₂ s.IsType items types) (deep : n ≤ m) :
    Simulates (fun s' => Option.Rel s'.Stands) s
      ((searchOf (callWithin (m + 4)) r).combineFirst l word x items) (set.search.combineFirst w word v types) := by
  induction items generalizing s types with
  | nil =>
    cases known
    exact .pure order .none
  | cons item items ih =>
    cases known with
    | cons isType known =>
      refine (combine_simulates order isSet left right isType deep).bind fun s₁ _ _ extended order₁ joined => ?_
      cases joined with
      | some stands => exact .pure order₁ (.some stands)
      | none =>
        exact ih order₁ (isSet.extended extended) (left.extended extended order.toClosed)
          (right.extended extended order.toClosed) (known.imp fun _ _ h => h.extended extended order.toClosed)

/-- A comparison that finds no common type fails as that of the values does. -/
theorem refuseComparison_simulates {l : Ref} {w : Value} (order : s.InOrder) (left : s.Stands l w)
    (right : s.Stands x v) :
    Simulates Session.Stands s (Search.refuseComparison operands l x) (Search.refuseComparison Operands.values w v) := by
  refine Simulates.read (runIn_look left) (Simulates.read (runIn_look right) ?_)
  simp only [Search.refuseComparison, Operands.values_look, pure_bind]
  refine (check_simulates order w.inspect).bind fun s₁ shownLeft _ extended₁ order₁ same => ?_
  subst same
  refine (check_simulates order₁ v.inspect).bind fun s₂ shownRight _ extended₂ order₂ same => ?_
  subst same
  refine (Simulates.ofTraced order₂ (Traced.emit _)).bind fun s₃ _ _ extended₃ order₃ _ => ?_
  have extended := extended₁.trans (extended₂.trans extended₃)
  have right₃ := right.extended extended order.toClosed
  exact .read (runIn_className (left.extended extended order.toClosed))
    (.read (runIn_className right₃) (refuse_simulates order₃ right₃ _ _))

/-- A raw operand on the left of a node is moved to its right. -/
theorem runIn_nodeFirst {l : Ref} {w : Value} (left : s.Stands l w) (right : s.Stands x v) :
    ∃ l' r', (Search.nodeFirst operands l x).runIn s = (.ok (l', r'), s) ∧ s.Stands l' (Value.turned w v).1 ∧
      s.Stands r' (Value.turned w v).2 := by
  rw [Search.nodeFirst, runIn_bind_of_ok (runIn_isNode left), runIn_bind_of_ok (runIn_isNode right), Value.turned]
  cases w.isNode <;> cases v.isNode <;> first
    | exact ⟨_, _, rfl, right, left⟩
    | exact ⟨_, _, rfl, left, right⟩

/-- A set of adapters compares two objects as it compares their values. -/
theorem equateUnified_simulates {l : Ref} {w : Value} (order : s.InOrder) (isSet : s.IsAdapterSet n r set)
    (left : s.Stands l w) (right : s.Stands x v) :
    Simulates Session.Stands s (equateUnified (callWithin (n + 4)) r l x) (set.equate w v) := by
  obtain ⟨l', r', turned, left', right'⟩ := runIn_nodeFirst left right
  unfold equateUnified AdapterSet.equate Search.equate
  rw [Search.nodeFirst_values, pure_bind]
  refine Simulates.read turned ?_
  refine (targets_simulates (m := n + 2) order isSet).bind fun s₁ items types extended₁ order₁ known => ?_
  have left₁ := left'.extended extended₁ order.toClosed
  have right₁ := right'.extended extended₁ order.toClosed
  refine (combineFirst_simulates order₁ (isSet.extended extended₁) left₁ right₁ known (Nat.le_refl n)).bind
    fun s₂ _ _ extended₂ order₂ joined => ?_
  cases joined with
  | some stands => exact .pure order₂ stands
  | none =>
    exact refuseComparison_simulates order₂ (left₁.extended extended₂ order₁.toClosed)
      (right₁.extended extended₂ order₁.toClosed)

/-- Which of two objects is to blame is told as for their values. -/
theorem blame_simulates {l : Ref} {w : Value} (order : s.InOrder) (isSet : s.IsAdapterSet n r set)
    (left : s.Stands l w) (right : s.Stands x v) :
    Simulates Session.Stands s ((searchOf (callWithin (n + 4)) r).blame l x) (set.search.blame w v) := by
  refine Simulates.made (truth_makes order) fun s₁ type extended₁ order₁ isType => ?_
  refine (reaches_simulates (m := n + 2) order₁ (isSet.extended extended₁) (left.extended extended₁ order.toClosed)
    isType (Nat.le_add_right n 2)).bind fun s₂ b _ extended₂ order₂ same => ?_
  subst same
  have extended := extended₁.trans extended₂
  cases b with
  | true => exact .pure order₂ (right.extended extended order.toClosed)
  | false => exact .pure order₂ (left.extended extended order.toClosed)

/-- A set of adapters joins two objects as it joins their values. -/
theorem conjoinUnified_simulates {l : Ref} {w : Value} (order : s.InOrder) (isSet : s.IsAdapterSet n r set)
    (left : s.Stands l w) (right : s.Stands x v) :
    Simulates Session.Stands s (conjoinUnified (callWithin (n + 4)) r l x) (set.conjoin w v) := by
  unfold conjoinUnified AdapterSet.conjoin Search.conjoin
  refine Simulates.made (truth_makes order) fun s₁ type extended₁ order₁ isType => ?_
  have isSet₁ := isSet.extended extended₁
  have left₁ := left.extended extended₁ order.toClosed
  have right₁ := right.extended extended₁ order.toClosed
  refine (combine_simulates order₁ isSet₁ left₁ right₁ isType (Nat.le_refl n)).bind
    fun s₂ _ _ extended₂ order₂ joined => ?_
  cases joined with
  | some stands => exact .pure order₂ stands
  | none =>
    refine (blame_simulates order₂ (isSet₁.extended extended₂) (left₁.extended extended₂ order₁.toClosed)
      (right₁.extended extended₂ order₁.toClosed)).bind fun s₃ bad u _ order₃ stands => ?_
    exact .read (runIn_className stands) (refuse_simulates order₃ stands _ _)

end Search

section Requests

variable {l : Ref} {w : Value} {set : AdapterSet}

/-- A set of adapters that is asked to compare two objects does as it does with their values. -/
theorem requestEquateUnified_simulates (order : s.InOrder) (isSet : s.IsAdapterSet n r set) (left : s.Stands l w)
    (right : s.Stands x v) :
    Simulates Session.Stands s (request (callWithin (n + 6)) r .equateUnified [l, x]) (set.equate w v) := by
  obtain ⟨q, object⟩ := isSet.isObject
  refine scope_simulates (n := n + 4) order .equateUnified [l, x] (by simp [StandingClass.offers]) object rfl
    (Nat.le_refl 2) (Nat.le_refl 2) fun s₁ extended order₁ => ?_
  exact equateUnified_simulates order₁ (isSet.extended extended) (left.extended extended order.toClosed)
    (right.extended extended order.toClosed)

/-- A set of adapters that is asked to join two objects does as it does with their values. -/
theorem requestConjoinUnified_simulates (order : s.InOrder) (isSet : s.IsAdapterSet n r set) (left : s.Stands l w)
    (right : s.Stands x v) :
    Simulates Session.Stands s (request (callWithin (n + 6)) r .conjoinUnified [l, x]) (set.conjoin w v) := by
  obtain ⟨q, object⟩ := isSet.isObject
  refine scope_simulates (n := n + 4) order .conjoinUnified [l, x] (by simp [StandingClass.offers]) object rfl
    (Nat.le_refl 2) (Nat.le_refl 2) fun s₁ extended order₁ => ?_
  exact conjoinUnified_simulates order₁ (isSet.extended extended) (left.extended extended order.toClosed)
    (right.extended extended order.toClosed)

end Requests

end SessionM

end FilterAlgebra
