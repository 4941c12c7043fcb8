import FilterAlgebra.Proofs.Showing
import FilterAlgebra.Proofs.Typing

/-!
# Tests and conversions

What the test of a capability lets pass is meant to be converted, and what it does not is meant
to be refused by that capability. Two faults come in between. An integer passes the test
whatever its size, but is not written with too many digits; and the record of a rejection
holds the inspection form of the value, so that a value without one is never refused.
`StandardCapability.converts_or_refuses` is the main result: for the capabilities of
integers, texts and floating-point numbers these are the only exceptions.
-/

set_option autoImplicit false

namespace FilterAlgebra

namespace Capability

variable {c : Capability} {v : Value} {issues : List Issue}

/-- A value that is written becomes a literal with that text. -/
theorem asExpression_of_writes {text : String} (h : c.Writes v text) :
    c.asExpression v = pure (.literal c.type text) := by
  obtain ⟨plain, hpass, hwritten⟩ := h
  have literal : c.literal plain = .ok (.literal c.type text) := by
    simp [Capability.literal, hwritten, Bind.bind, Except.bind, pure, Except.pure]
  simp only [asExpression, hpass, literal, Traced.ofFault_ok]

/-- A value that is not accepted is rejected for its issues. -/
theorem asExpression_of_rejected (h : c.accepts v = false) :
    ∃ issues, c.asExpression v = c.reject v issues := by
  cases hpass : c.validate v with
  | ok plain => simp [accepts, hpass, Except.isOk, Except.toBool] at h
  | error issues => exact ⟨issues, by simp only [asExpression, hpass]⟩

/-- A value that can be shown is refused after one record, where the type is known by a name. -/
theorem reject_of_shown {α : Type} {shown name : String} (hshown : v.inspect = .ok shown)
    (hname : c.type.name = .ok name) :
    (c.reject v issues : Traced α) =
      ⟨[.rejected c.className v shown issues.length],
        .error (.refused (.noConversion v.className name) v (some c.type) (some issues))⟩ := by
  rw [reject, hshown, hname]
  rfl

/-- A value that cannot be shown is not refused: the rejection itself fails. -/
theorem reject_of_unshown {α : Type} {f : Fault} (h : v.inspect = .error f) :
    (c.reject v issues : Traced α) = Traced.fail (.fault f) := by
  rw [reject, h]
  rfl

end Capability

namespace StandardCapability

variable {style : QuoteStyle} {c : StandardCapability} {v : Value}

/-- The capability for integers writes every integer within the limit of digits. -/
theorem integer_writes_of_accepts (h : integer.toCapability.accepts v = true)
    (short : v.WithinDigits) : ∃ text, integer.toCapability.Writes v text := by
  obtain ⟨k, hk⟩ := Option.isSome_iff_exists.mp (integer_accepts_iff.mp h)
  exact ⟨_, integer_writes_iff.mpr ⟨k, hk, short k hk, rfl⟩⟩

/-- The capability for texts writes every text. -/
theorem text_writes_of_accepts (h : (StandardCapability.text style).toCapability.accepts v = true) :
    ∃ text, (StandardCapability.text style).toCapability.Writes v text := by
  obtain ⟨s, hs⟩ := Option.isSome_iff_exists.mp (text_accepts_iff.mp h)
  exact ⟨_, text_writes_iff.mpr ⟨s, hs, rfl⟩⟩

/-- Every floating-point number that passes the test is written. -/
theorem double_writes_of_accepts (h : double.toCapability.accepts v = true) :
    ∃ text, double.toCapability.Writes v text := by
  cases hpass : Validation.finiteFloat v with
  | error issues =>
    simp [toCapability, Capability.accepts, validate, hpass, Functor.map, Except.map, Except.isOk,
      Except.toBool] at h
  | ok x =>
    have validated : double.validate v = .ok (.float x) := by
      simp [validate, hpass, Functor.map, Except.map]
    exact ⟨x.text, .float x, validated, rfl⟩

/-- An integer of too many digits passes the test and is not written. -/
theorem integer_asExpression_of_long (long : ¬v.WithinDigits) :
    integer.toCapability.asExpression v = Traced.fail (.fault .tooManyDigits) := by
  simp only [Value.WithinDigits, not_forall] at long
  obtain ⟨k, hk, hlong⟩ := long
  have unwritten : Numeral.decimal? k = none := Numeral.decimal?_eq_none_iff.mpr hlong
  have validated : integer.toCapability.validate v = .ok (.int k) := by
    simp [toCapability, validate, Validation.strictInteger, hk, Functor.map, Except.map]
  have faulty : integer.toCapability.literal (.int k) = .error .tooManyDigits := by
    simp [toCapability, Capability.literal, format, Value.display, Value.inspect, Numeral.written,
      unwritten, Fault.ofOption, Bind.bind, Except.bind]
  rw [Capability.asExpression, validated]
  simp only [faulty, Traced.ofFault_error]

/-- The capabilities of integers, texts and floating-point numbers write what they accept, unless it
is an integer of too many digits. -/
theorem writes_of_accepts (basic : c ∈ [.integer, .text style, .double])
    (h : c.toCapability.accepts v = true) (short : c = .integer → v.WithinDigits) :
    ∃ text, c.toCapability.Writes v text := by
  simp only [List.mem_cons, List.not_mem_nil, or_false] at basic
  rcases basic with rfl | rfl | rfl
  · exact integer_writes_of_accepts h (short rfl)
  · exact text_writes_of_accepts h
  · exact double_writes_of_accepts h

/-- The types of the basic capabilities are built in, and have their fixed names. -/
theorem name_type_of_basic (basic : c ∈ [.integer, .text style, .double]) :
    c.type.name = .ok c.type.fixedName := by
  simp only [List.mem_cons, List.not_mem_nil, or_false] at basic
  rcases basic with rfl | rfl | rfl <;> rfl

/-- **Accepted values are converted and rejected ones refused**, by the capabilities of integers,
texts and floating-point numbers, with two exceptions: an integer of too many digits is accepted and
not converted, and a value that shows something without an inspection form is rejected and not
refused. Both fail by a fault instead. -/
theorem converts_or_refuses (style : QuoteStyle) {c : StandardCapability}
    (basic : c ∈ [.integer, .text style, .double]) (v : Value) :
    (c.toCapability.accepts v = true →
      ((c = .integer → v.WithinDigits) →
        ∃ text, c.toCapability.asExpression v = pure (.literal c.type text)) ∧
      (c = .integer → ¬v.WithinDigits →
        c.toCapability.asExpression v = Traced.fail (.fault .tooManyDigits))) ∧
    (c.toCapability.accepts v = false →
      (v.Showable → ∃ shown issues, v.inspect = .ok shown ∧ c.toCapability.asExpression v =
        ⟨[.rejected c.className v shown issues.length],
          .error (.refused (.noConversion v.className c.type.fixedName) v (some c.type)
            (some issues))⟩) ∧
      (¬v.Showable → ∃ w f, v.Shows w ∧ w.ownFault? = some f ∧
        c.toCapability.asExpression v = Traced.fail (.fault f))) := by
  constructor
  · intro accepted
    constructor
    · intro short
      obtain ⟨text, hwrites⟩ := writes_of_accepts basic accepted short
      exact ⟨text, Capability.asExpression_of_writes hwrites⟩
    · rintro rfl long
      exact integer_asExpression_of_long long
  · intro rejected
    obtain ⟨issues, hreject⟩ := Capability.asExpression_of_rejected rejected
    constructor
    · intro showable
      obtain ⟨shown, hshown⟩ := Value.inspect_eq_ok_iff.mpr showable
      refine ⟨shown, issues, hshown, ?_⟩
      rw [hreject]
      exact Capability.reject_of_shown hshown (name_type_of_basic basic)
    · intro faulty
      -- the record holds the form of the value, so its fault comes before the refusal
      cases h : v.inspect with
      | ok shown => exact absurd (Value.showable_of_inspect h) faulty
      | error f =>
        obtain ⟨w, shows, hw⟩ := Value.fault_of_inspect h
        refine ⟨w, f, shows, hw, ?_⟩
        rw [hreject]
        exact Capability.reject_of_unshown h

/-- A text is quoted, and a list is refused by the capability of texts. -/
theorem converts_or_refuses_text_and_list :
    let c := StandardCapability.text {}
    (∃ text, c.toCapability.asExpression (.str "it's") = pure (.literal .str text)) ∧
      ∃ shown issues, c.toCapability.asExpression (.list [.none]) =
        ⟨[.rejected "TextExpressable" (.list [.none]) shown issues.length],
          .error (.refused (.noConversion "list" "str") (.list [.none]) (some .str) (some issues))⟩ := by
  intro c
  have basic : c ∈ [.integer, .text {}, .double] := List.mem_cons_of_mem _ List.mem_cons_self
  have showable : (Value.list [.none]).Showable :=
    Value.showable_of_inspect (show (Value.list [.none]).inspect = .ok "[None]" from rfl)
  obtain ⟨shown, issues, -, refused⟩ := ((converts_or_refuses {} basic (.list [.none])).2 rfl).1 showable
  have converted := ((converts_or_refuses {} basic (.str "it's")).1 rfl).1 (by simp [c])
  exact ⟨converted, shown, issues, refused⟩

/-- The first integer of too many digits is rejected by the capability of texts, alone and in a list,
without being refused, and accepted by that of integers without being converted. -/
theorem long_integer_not_refused :
    let long := Value.int Numeral.bound
    let texts := (StandardCapability.text {}).toCapability
    let integers := StandardCapability.integer.toCapability
    (texts.accepts long = false ∧
      (texts.asExpression long).result = .error (.fault .tooManyDigits)) ∧
    (texts.accepts (.list [long]) = false ∧
      (texts.asExpression (.list [long])).result = .error (.fault .tooManyDigits)) ∧
    integers.accepts long = true ∧
      (integers.asExpression long).result = .error (.fault .tooManyDigits) := by
  intro long texts integers
  have unshown : long.inspect = .error .tooManyDigits := by
    rw [Value.inspect, Numeral.written, Numeral.decimal?_bound]
    rfl
  have unshownList : (Value.list [long]).inspect = .error .tooManyDigits := by
    simp [Value.inspect, inspectEach, Inspection.all, unshown, Bind.bind, Except.bind]
  have rejected : texts.accepts long = false := rfl
  have rejectedList : texts.accepts (.list [long]) = false := rfl
  have unfit : ¬long.WithinDigits := fun short =>
    Numeral.decimal?_eq_none_iff.mp Numeral.decimal?_bound (short Numeral.bound rfl)
  obtain ⟨_, hreject⟩ := Capability.asExpression_of_rejected rejected
  obtain ⟨_, hrejectList⟩ := Capability.asExpression_of_rejected rejectedList
  refine ⟨⟨rejected, ?_⟩, ⟨rejectedList, ?_⟩, rfl, ?_⟩
  · rw [hreject, Capability.reject_of_unshown unshown]
    rfl
  · rw [hrejectList, Capability.reject_of_unshown unshownList]
    rfl
  · rw [integer_asExpression_of_long unfit]
    rfl

end StandardCapability

end FilterAlgebra
