import FilterAlgebra.Proofs.QuoteObjects

/-!
# Capabilities as objects

A session asks a capability for its test, its verdict and its way of writing by name. For
an object of one of the classes of the catalogue, in a session in order, each of these
is what `StandardCapability` says of values: the test lets pass what it lets pass and
hands it on in the same plain form (`validate_simulates`), and what it hands on is
written as the same text (`format_simulates`). So a conversion makes the literal that
`Capability.asExpression` describes, or ends in the same refusal after the same record
(`asExpression_simulates`).
-/

set_option autoImplicit false

namespace FilterAlgebra

namespace Session

/-- An object was made for a value that a test handed on: a simple one, or some in a row. -/
def Holds (s : Session) (r : Ref) : Value → Prop
  | .tuple items => ∃ parts, s.IsPlain r (.tuple parts) ∧
      List.Forall₂ (fun q v => v.isSimple = true ∧ s.IsPlain q (.atom v)) parts items
  | v => v.isSimple = true ∧ s.IsPlain r (.atom v)

/-- An object is a plain text. -/
def IsText (s : Session) (r : Ref) (t : String) : Prop :=
  s.IsPlain r (.atom (.str t))

/-- An object is a capability of the catalogue. Only those for texts have a style. -/
def IsCapability (s : Session) (r : Ref) (c : StandardCapability) : Prop :=
  match c.style? with
  | some style => ∃ q, s.IsObject r (StandingClass.ofCapability c) [(Attribute.style, q)] ∧ s.IsStyle q style
  | none => s.IsObject r (StandingClass.ofCapability c) []

variable {s s' : Session} {r : Ref} {c : StandardCapability}

/-- A capability is an object that has nothing of its own but a style. -/
theorem IsCapability.isObject (h : s.IsCapability r c) :
    ∃ attributes, s.IsObject r (StandingClass.ofCapability c) attributes ∧
      ∀ name, name ≠ Attribute.style → Table.get? attributes name = none := by
  unfold IsCapability at h
  cases style : c.style? with
  | some style' =>
    rw [style] at h
    obtain ⟨q, object, -⟩ := h
    exact ⟨_, object, fun name other => by simp [Table.get?_cons, Ne.symm other]⟩
  | none =>
    rw [style] at h
    exact ⟨_, h, fun _ _ => rfl⟩

/-- What was made for a value is there in a session that only grew. -/
theorem Holds.extended {v : Value} (h : s.Holds r v) (extended : s.ExtendedBy s') : s'.Holds r v := by
  cases v with
  | tuple items =>
    obtain ⟨parts, isTuple, each⟩ := h
    exact ⟨parts, isTuple.extended extended, each.imp fun _ _ held => ⟨held.1, held.2.extended extended⟩⟩
  | _ => exact ⟨h.1, h.2.extended extended⟩

/-- A capability is one in a session that only grew. -/
theorem IsCapability.extended (h : s.IsCapability r c) (extended : s.ExtendedBy s') : s'.IsCapability r c := by
  unfold IsCapability at *
  cases style : c.style? with
  | some style' =>
    rw [style] at h
    obtain ⟨q, object, isStyle⟩ := h
    exact ⟨q, object.extended extended, isStyle.extended extended⟩
  | none =>
    rw [style] at h
    exact h.extended extended

end Session

namespace StandardCapability

/-- The class that says how capabilities of a kind write. -/
def writer : StandardCapability → StandingClass
  | shortText _ => .textCapability
  | c => StandingClass.ofCapability c

variable (c : StandardCapability)

/-- All capabilities do what the class above them does, but for writing. -/
theorem function?_ofCapability {action : Action}
    (h : action ∈ [Action.validate, .accepts, .asExpression, .unify]) :
    (StandingClass.ofCapability c).function? action = some ⟨.capability, action⟩ := by
  have all : ∀ class' ∈ StandingClass.asked, class'.capability?.isSome = true →
      ∀ action ∈ [Action.validate, .accepts, .asExpression, .unify],
        class'.function? action = some ⟨.capability, action⟩ := by decide +kernel
  exact all _ (StandingClass.ofCapability_mem_asked c) (by cases c <;> rfl) action h

/-- Capabilities write as the class says that says how they write. -/
theorem function?_format : (StandingClass.ofCapability c).function? .format = some ⟨c.writer, .format⟩ := by
  cases c <;> (simp only [StandingClass.ofCapability, writer]; decide +kernel)

/-- The class of a capability has the name that the capability is told by. -/
theorem name_ofCapability : (StandingClass.ofCapability c).name = c.className := by
  cases c <;> rfl

/-- The class of the type of a capability is the type. -/
theorem classType_builtIn (s : Session) : s.classType (StandingClass.builtIn c.type) = c.type := by
  cases c <;> rfl

/-- What comes of an outcome that a function is applied to comes of the function. -/
theorem exists_of_map_eq_ok {α β ε : Type} {f : α → β} {outcome : Except ε α} {b : β}
    (h : f <$> outcome = .ok b) : ∃ a, f a = b := by
  cases outcome with
  | ok a => exact ⟨a, Except.ok.inj h⟩
  | error issues => cases h

/-- What a test lets pass it hands on as a simple value, or as two of them in a row. -/
theorem plain_of_validate {v plain : Value} (h : c.validate v = .ok plain) :
    plain.isSimple = true ∨ ∃ n t, plain = .tuple [.int n, .str t] := by
  cases c with
  | pair =>
    obtain ⟨⟨n, t⟩, rfl⟩ := StandardCapability.exists_of_map_eq_ok h
    exact .inr ⟨n, t, rfl⟩
  | _ =>
    obtain ⟨a, rfl⟩ := StandardCapability.exists_of_map_eq_ok h
    exact .inl rfl

end StandardCapability

namespace SessionM

variable {s s' : Session} {r x : Ref} {c : StandardCapability} {v : Value} {n : Nat}

section Values

/-- An object for what a test handed on holds it. -/
theorem newPlain_makes (order : s.InOrder) {plain : Value}
    (h : plain.isSimple = true ∨ ∃ n t, plain = .tuple [.int n, .str t]) :
    Makes (fun s' q => s'.Holds q plain) s (newPlain plain) := by
  obtain simple | ⟨n, t, rfl⟩ := h
  · have atom : Makes (fun s' q => s'.IsPlain q (.atom plain)) s (newAtom plain) :=
      newAtom_makes order fun key known => Value.content?_of_isSimple simple known
    cases plain with
    | none | bool | int | float | decimal | text | bytes =>
      exact atom.imp fun s' q _ _ isPlain => ⟨simple, isPlain⟩
    | _ => simp [Value.isSimple] at simple
  · show Makes _ s (do newTuple (← [Value.int n, .str t].mapM newAtom))
    simp only [List.mapM_cons, List.mapM_nil, bind_assoc, pure_bind]
    refine (newAtom_makes order fun key known => Value.content?_of_isSimple rfl known).bind
      fun s₁ first extended₁ order₁ isFirst => ?_
    refine (newText_makes order₁ t).bind fun s₂ second extended₂ order₂ isSecond => ?_
    have isFirst' := isFirst.extended extended₂
    have refs : ∀ q ∈ (Content.tuple [first, second]).refs, q < s₂.cells.size := by
      simpa [Content.refs] using ⟨isFirst'.lt, isSecond.lt⟩
    refine (Makes.newPlain order₂ refs).imp fun s₃ q extended₃ _ isTuple => ?_
    exact ⟨_, isTuple, .cons ⟨rfl, isFirst'.extended extended₃⟩
      (.cons ⟨rfl, isSecond.extended extended₃⟩ .nil)⟩

end Values

section Tests

/-- The test of a capability of the catalogue lets an object pass as it does its value. -/
theorem pass_simulates (order : s.InOrder) (call : Caller) (h : s.Stands x v) :
    Simulates Session.Holds s (pass call (.ofCatalogue c) x)
      (Traced.ofExcept ((c.validate v).mapError .invalid)) := by
  have looked : (valueOf x).runIn s = (.ok v, s) := runIn_look h
  unfold pass outcomeOfTest
  simp only [bind_assoc]
  refine Simulates.read looked ?_
  cases verdict : c.validate v with
  | ok plain =>
    refine Makes.simulates ?_
    simp only [bind_assoc, pure_bind]
    refine (newPlain_makes order (c.plain_of_validate verdict)).bind fun s₁ q extended order₁ holds => ?_
    exact Makes.pure order₁ holds
  | error issues =>
    simp only [pure_bind]
    exact Simulates.failure order (.invalid issues)

/-- The member of tests that tests a value takes the value. -/
theorem validate_takes (fullName : String) :
    (⟨.method, StandingClass.validator.id, "validate_python"⟩ : Member).intake.complaint? "validate_python"
      fullName 1 = none := by
  have ofLibrary : Hierarchy.builtIn? StandingClass.validator.id = none := by decide
  have anyNumber : Intake.withOne.contains "validate_python" = false := by decide +kernel
  have intake : (⟨.method, StandingClass.validator.id, "validate_python"⟩ : Member).intake = .any := by
    simp only [Member.intake, ofLibrary, anyNumber, Bool.false_eq_true, if_false]
  rw [intake]
  rfl

/-- Testing a value is left to the test. -/
theorem runIn_performMember_validate {q : Ref} {test : CapabilityTest} (call : Caller)
    (content : s.content q = .validator test) :
    (performMember call ⟨.method, StandingClass.validator.id, "validate_python"⟩ q { positional := [x] }).runIn s =
      (pass call test x).runIn s := by
  rw [performMember, runIn_get_bind, content]
  simp only []

/-- What a request comes to that a capability leaves to the class above all capabilities. -/
theorem capability_comesTo (order : s.InOrder) (capability : s.IsCapability r c) (action : Action)
    (common : action ∈ [Action.validate, .accepts, .asExpression]) :
    ∃ s', ComesTo s (request (callWithin (n + 2)) r action [x]) s'
      (performOnCapability (callWithin n) .capability action r [x]) := by
  obtain ⟨attributes, object, lacks⟩ := capability.isObject
  have found : (StandingClass.ofCapability c).function? action = some ⟨.capability, action⟩ :=
    c.function?_ofCapability (by simp only [List.mem_cons, List.not_mem_nil, or_false] at common ⊢; tauto)
  have asked := StandingClass.ofCapability_mem_asked c
  simp only [List.mem_cons, List.not_mem_nil, or_false] at common
  obtain rfl | rfl | rfl := common
  · exact request_comesTo order .validate [x] object asked found (lacks _ (by decide)) (by decide) rfl
      (Nat.le_refl 2) (Nat.le_refl 2)
  · exact request_comesTo order .accepts [x] object asked found (lacks _ (by decide)) (by decide) rfl
      (Nat.le_refl 2) (Nat.le_refl 2)
  · exact request_comesTo order .asExpression [x] object asked found (lacks _ (by decide)) (by decide) rfl
      (Nat.le_refl 2) (Nat.le_refl 2)

/-- A capability tests an object as it tests the value. -/
theorem validate_simulates (order : s.InOrder) (capability : s.IsCapability r c) (h : s.Stands x v) :
    Simulates Session.Holds s (request (callWithin (n + 3)) r .validate [x])
      (Traced.ofExcept ((c.validate v).mapError .invalid)) := by
  obtain ⟨attributes, object, lacks⟩ := capability.isObject
  obtain ⟨s₁, comesTo⟩ := capability_comesTo (n := n + 1) (x := x) order capability .validate (by decide)
  refine comesTo.simulates ?_
  have order₁ := comesTo.1.order
  have object₁ := object.extended comesTo.1.extended
  obtain ⟨owner, q, slot, cell⟩ := order₁.tests c
  have test : s₁.IsPlain q (.validator (.ofCatalogue c.tested)) := cell
  have shown : (attributeOf r Attribute.validator).runIn s₁ = (.ok q, s₁) := by
    rw [runIn_attributeOf_kept (object₁.content_eq ▸ rfl) (by decide)
      ((object₁.attribute?_eq _).trans (lacks _ (by decide))) (by rw [object₁.classOf_eq, slot])]
    exact runIn_presented (by simp [test.content_eq]) (by simp [test.content_eq])
  show Simulates _ s₁ (do ask (callWithin (n + 1)) (← attributeOf r Attribute.validator) "validate_python" [x]) _
  refine Simulates.read shown ?_
  have classOf : s₁.classOf q = StandingClass.validator.id := by
    rw [Session.classOf, test.below?_eq, test.content_eq]
    rfl
  have keeps : s₁.Keeps (s₁.classOf q) "validate_python"
      (.member ⟨.method, StandingClass.validator.id, "validate_python"⟩) := by
    rw [classOf]
    exact order₁.testing
  obtain ⟨s₂, comesTo'⟩ := ask_comesTo (n := n) order₁ test.lt (test.content_eq ▸ rfl) (test.attribute?_eq _)
    keeps rfl (by decide) [x]
  refine comesTo'.simulates ?_
  have passed := pass_simulates (c := c.tested) comesTo'.1.order (callWithin n)
    ((h.extended comesTo.1.extended order.toClosed).extended comesTo'.1.extended order₁.toClosed)
  rw [c.validate_tested] at passed
  unfold Simulates at passed ⊢
  rwa [runIn_callMember _ _ [x] validate_takes,
    runIn_performMember_validate _ (test.extended comesTo'.1.extended).content_eq]

/-- What comes of a test is what comes of the test of the value. -/
theorem tested_makes (order : s.InOrder) (capability : s.IsCapability r c) (h : s.Stands x v) :
    Makes (fun s' outcome => match outcome, c.validate v with
      | .ok q, .ok plain => s'.Holds q plain
      | .error issues, .error issues' => issues = issues'
      | _, _ => False) s (tested (callWithin (n + 3)) r x) := by
  obtain ⟨outcome, s', ends, grows, related⟩ := validate_simulates (n := n) order capability h
  unfold Makes tested
  rw [runIn_tryCatch, ← bind_pure_comp, runIn_bind, ends]
  cases verdict : c.validate v with
  | ok plain =>
    rw [verdict] at grows related
    obtain ⟨q, rfl, holds⟩ := related.of_ok
    exact ⟨_, s', rfl, grows, holds⟩
  | error issues =>
    rw [verdict] at grows related
    obtain ⟨⟨failure, culprit⟩, rfl, same, -⟩ := related.of_error
    obtain rfl : failure = .invalid issues := same
    exact ⟨.error issues, s', rfl, grows, rfl⟩

/-- A capability says of an object whether it accepts it as it says it of the value. -/
theorem accepts_makes (order : s.InOrder) (capability : s.IsCapability r c) (h : s.Stands x v) :
    Makes (fun s' q => s'.IsPlain q (.atom (.bool (c.toCapability.accepts v)))) s
      (request (callWithin (n + 5)) r .accepts [x]) := by
  obtain ⟨s₁, comesTo⟩ := capability_comesTo (n := n + 3) (x := x) order capability .accepts (by decide)
  refine comesTo.makes ?_
  have extended := comesTo.1.extended
  show Makes _ s₁ (do newAtom (.bool (← tested (callWithin (n + 3)) r x).isOk))
  refine (tested_makes comesTo.1.order (capability.extended extended)
    (h.extended extended order.toClosed)).bind fun s₂ outcome _ order₂ ends => ?_
  have same : outcome.isOk = c.toCapability.accepts v := by
    show outcome.isOk = (c.validate v).isOk
    revert ends
    cases outcome <;> cases c.validate v <;> simp [Except.isOk, Except.toBool]
  rw [same]
  exact newAtom_makes order₂ fun key known => Value.content?_of_isSimple rfl known

end Tests

section Writing

variable {q : Ref} {plain : Value}

/-- A plain object is a text as its value is, which may be none. -/
theorem displayOf_simulates (order : s.InOrder) (call : Caller) (h : s.IsPlain q (.atom v)) :
    Simulates (fun _ a b => a = b) s (displayOf call q) (Traced.ofFault v.display) := by
  unfold displayOf
  refine Simulates.get ?_
  rw [h.isNode_eq]
  simp only [Bool.false_eq_true, if_false]
  exact Simulates.read (runIn_valueOf h) (Simulates.ofFault order v.display)

/-- The value of a plain object is settled. -/
theorem runIn_settledValue (call : Caller) (h : s.IsPlain q (.atom v)) :
    (settledValue call q).runIn s = (.ok v, s) := by
  rw [settledValue, runIn_get_bind, h.isNode_eq]
  simp only [Bool.false_eq_true, if_false]
  exact runIn_valueOf h

/-- What a test handed on is settled. -/
theorem runIn_settled (call : Caller) (h : s.Holds q plain) :
    (settled call q).runIn s = (.ok plain, s) := by
  have simple : ∀ {v : Value}, s.IsPlain q (.atom v) → (settled call q).runIn s = (.ok v, s) := by
    intro v isPlain
    rw [settled, runIn_get_bind, isPlain.content_eq]
    exact runIn_settledValue call isPlain
  cases plain with
  | tuple items =>
    obtain ⟨parts, isTuple, each⟩ := h
    have settledEach : (parts.mapM (settledValue call)).runIn s = (.ok items, s) :=
      runIn_mapM (each.imp fun q v held => runIn_settledValue call held.2)
    rw [settled, runIn_get_bind, isTuple.content_eq]
    exact runIn_bind_of_ok settledEach _
  | _ => exact simple h.2

/-- What comes out as a text is made an object. -/
theorem newText_simulates {p : SessionM String} {run : Traced String}
    (h : Simulates (fun _ a b => a = b) s p run) :
    Simulates Session.IsText s (do newText (← p)) run := by
  rw [← bind_pure run]
  refine h.bind fun s₁ a b _ order₁ same => ?_
  subst same
  exact Makes.simulates (newText_makes order₁ a)

/-- What a capability writes of a settled value is what it writes of the value. -/
theorem writeSettled_simulates (order : s.InOrder) (call : Caller) (c : StandardCapability) (h : s.Holds q plain) :
    Simulates Session.IsText s (do newText (← (c.format (← settled call q) : SessionM String)))
      (Traced.ofFault (c.format plain)) :=
  Simulates.read (runIn_settled call h) (newText_simulates (Simulates.ofFault order (c.format plain)))

/-- A plain value that is no text is made one. -/
theorem textObjectOf_simulates (order : s.InOrder) (call : Caller) (h : s.IsPlain q (.atom v))
    (noText : ∀ t, v ≠ .text t) :
    Simulates Session.IsText s (textObjectOf call q) (Traced.ofFault v.display) := by
  have made := newText_simulates (displayOf_simulates order call h)
  unfold textObjectOf
  refine Simulates.get ?_
  rw [h.content_eq, h.isNode_eq]
  cases v with
  | text t => exact absurd rfl (noText t)
  | _ => exact made

/-- A capability for texts has its style put a text between marks. -/
theorem quoteBy_simulates (order : s.InOrder) {style : QuoteStyle} {t : String}
    (h : ∃ q', s.IsObject r (StandingClass.ofCapability c) [(Attribute.style, q')] ∧ s.IsStyle q' style)
    (isText : s.IsText q t) :
    Simulates Session.IsText s
      (do request (callWithin (n + 3)) (← attributeOf r Attribute.style) .quote [q])
      (Traced.ofFault (style.quoteValue (.str t))) := by
  obtain ⟨q', object, isStyle⟩ := h
  have own : (attributeOf r Attribute.style).runIn s = (.ok q', s) :=
    runIn_attributeOf_own (object.content_eq ▸ rfl) (by decide) (object.attribute?_eq _)
  refine Simulates.read own (Makes.simulates ?_)
  obtain ⟨mark, doubled, isObject, -, -⟩ := id isStyle
  have found : StandingClass.style.function? .quote = some ⟨.style, .quote⟩ := by decide +kernel
  obtain ⟨s₁, comesTo⟩ := request_comesTo (n := n + 1) order .quote [q] isObject (by decide) found rfl
    (by decide) rfl (Nat.le_refl 2) (Nat.le_refl 2)
  refine comesTo.makes ?_
  exact quote_makes comesTo.1.order (isStyle.extended comesTo.1.extended) (isText.extended comesTo.1.extended)

/-- A capability writes what its test handed on as it writes the value. -/
theorem format_simulates (order : s.InOrder) (capability : s.IsCapability r c)
    (passed : c.validate v = .ok plain) (holds : s.Holds q plain) :
    Simulates Session.IsText s (request (callWithin (n + 5)) r .format [q]) (Traced.ofFault (c.format plain)) := by
  obtain ⟨attributes, object, lacks⟩ := capability.isObject
  have noOfClass : (⟨c.writer, .format⟩ : Function).action.isOfClass = false := rfl
  obtain ⟨s₁, comesTo⟩ := request_comesTo (n := n + 3) order .format [q] object
    (StandingClass.ofCapability_mem_asked c) c.function?_format (lacks _ (by decide)) (by decide) noOfClass
    (Nat.le_refl 2) (Nat.le_refl 2)
  refine comesTo.simulates ?_
  have order₁ := comesTo.1.order
  have performed : perform (callWithin (n + 3)) ⟨c.writer, .format⟩ r [some q] { positional := [r, q] } =
      format (callWithin (n + 3)) c.writer r q := by
    cases c <;> rfl
  show Simulates _ s₁ (perform (callWithin (n + 3)) ⟨c.writer, .format⟩ r [some q] { positional := [r, q] }) _
  rw [performed]
  have holds₁ := holds.extended comesTo.1.extended
  have object₁ := capability.extended comesTo.1.extended
  cases c with
  | integer | decimal =>
    obtain ⟨a, rfl⟩ := StandardCapability.exists_of_map_eq_ok passed
    rw [StandardCapability.format]
    exact textObjectOf_simulates order₁ _ holds₁.2 nofun
  | boolean =>
    obtain ⟨b, rfl⟩ := StandardCapability.exists_of_map_eq_ok passed
    refine Simulates.read (runIn_truthOf holds₁.2) ?_
    exact Makes.simulates (wordObject_makes order₁ _)
  | text style | shortText style =>
    obtain ⟨t, rfl⟩ := StandardCapability.exists_of_map_eq_ok passed
    exact quoteBy_simulates order₁ object₁ holds₁.2
  | double | hexInteger | evenInteger | pair =>
    exact writeSettled_simulates order₁ _ _ holds₁

end Writing

section Conversions

/-- What capabilities keep for their type is the class of the type. -/
theorem runIn_semanticTypeAttribute (order : s.InOrder) (capability : s.IsCapability r c) :
    ∃ q, (attributeOf r Attribute.semanticType).runIn s = (.ok q, s) ∧
      s.IsClass q (StandingClass.builtIn c.type) := by
  obtain ⟨attributes, object, lacks⟩ := capability.isObject
  have type : (StandingClass.ofCapability c).type? = some c.type := by
    cases c <;> rfl
  obtain ⟨owner, q, slot, isClass⟩ := order.types _ _ type
  have shown := runIn_attributeOf_kept (object.content_eq ▸ rfl) semanticType_ordinary
    ((object.attribute?_eq _).trans (lacks _ (by decide))) (by rw [object.classOf_eq, slot])
  rw [runIn_presented (by simp [isClass.content_eq]) (by simp [isClass.content_eq])] at shown
  exact ⟨q, shown, isClass⟩

/-- A capability rejects an object as it rejects the value. -/
theorem reject_simulates (order : s.InOrder) (capability : s.IsCapability r c) (h : s.Stands x v)
    (issues : List Issue) :
    Simulates Session.Stands s (reject r x issues) (Value.node <$> c.toCapability.reject v issues) := by
  obtain ⟨attributes, object, -⟩ := capability.isObject
  have className : s.className r = c.className := by rw [object.className_eq order, c.name_ofCapability]
  have looked : (valueOf x).runIn s = (.ok v, s) := runIn_look h
  unfold reject Capability.reject
  simp only [map_bind]
  refine Simulates.get (Simulates.read looked ?_)
  refine (Simulates.ofFault order v.inspect).bind fun s₁ shown _ extended₁ order₁ same => ?_
  subst same
  rw [className]
  refine (Simulates.ofTraced order₁ (Traced.emit _)).bind fun s₂ _ _ extended₂ order₂ _ => ?_
  have extended := extended₁.trans extended₂
  obtain ⟨q, shows, isClass⟩ := runIn_semanticTypeAttribute order₂ (capability.extended extended)
  have typed : (semanticTypeOf r).runIn s₂ = (.ok c.type, s₂) := by
    rw [semanticTypeOf, runIn_bind_of_ok shows, ← c.classType_builtIn s₂, ← isClass.typeOf]
    rfl
  refine Simulates.read typed ?_
  refine (Simulates.ofFault order₂ c.type.name).bind fun s₃ name _ extended₃ order₃ same => ?_
  subst same
  have h₃ := h.extended (extended.trans extended₃) order.toClosed
  rw [h.className]
  have blames : Setback.Blames ⟨.refused (.noConversion v.className name) v (some c.type) (some issues), some x⟩ s₃ := by
    intro q' same
    obtain rfl : x = q' := by simpa using same
    exact ⟨h₃.lt, _, _, _, by rw [h₃.value]⟩
  exact Simulates.fail order₃ blames

/-- A capability converts an object as it converts the value. -/
theorem asExpression_simulates (order : s.InOrder) (capability : s.IsCapability r c) (h : s.Stands x v) :
    Simulates Session.Stands s (request (callWithin (n + 7)) r .asExpression [x])
      (Value.node <$> c.toCapability.asExpression v) := by
  obtain ⟨s₁, comesTo⟩ := capability_comesTo (n := n + 5) (x := x) order capability .asExpression (by decide)
  refine comesTo.simulates ?_
  have order₁ := comesTo.1.order
  have capability₁ := capability.extended comesTo.1.extended
  have h₁ := h.extended comesTo.1.extended order.toClosed
  show Simulates _ s₁ (literalOf (callWithin (n + 5)) r x) _
  unfold literalOf Capability.asExpression
  refine Simulates.made (tested_makes (n := n + 2) order₁ capability₁ h₁) fun s₂ outcome extended₂ order₂ ends => ?_
  have capability₂ := capability₁.extended extended₂
  have h₂ := h₁.extended extended₂ order₁.toClosed
  cases verdict : c.validate v with
  | error issues' =>
    have rejected : c.toCapability.validate v = .error issues' := verdict
    rw [verdict] at ends
    simp only [rejected]
    cases outcome with
    | ok q => exact ends.elim
    | error issues =>
      obtain rfl : issues = issues' := ends
      exact reject_simulates order₂ capability₂ h₂ issues
  | ok plain =>
    have accepted : c.toCapability.validate v = .ok plain := verdict
    rw [verdict] at ends
    simp only [accepted]
    cases outcome with
    | error issues => exact ends.elim
    | ok q =>
      have holds : s₂.Holds q plain := ends
      obtain ⟨type, shows, isClass⟩ := runIn_semanticTypeAttribute order₂ capability₂
      have literal : Value.node <$> Traced.ofFault (c.toCapability.literal plain) =
          Traced.ofFault (c.format plain) >>= fun text => pure (Value.node (.literal c.type text)) := by
        show Value.node <$> Traced.ofFault (c.format plain >>= fun text => .ok (.literal c.type text)) = _
        cases c.format plain <;> rfl
      rw [literal]
      refine Simulates.read shows ?_
      refine (format_simulates order₂ capability₂ verdict holds).bind fun s₃ text t extended₃ order₃ isText => ?_
      have made := newLiteral_makes order₃ (isClass.extended extended₃) isText
      rw [c.classType_builtIn] at made
      exact Makes.simulates made

end Conversions

end SessionM

end FilterAlgebra
