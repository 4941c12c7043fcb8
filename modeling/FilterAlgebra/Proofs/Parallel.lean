import FilterAlgebra.Trace

/-!
# Two runs side by side

Two runs end alike if both have results that are related in a given way, or both fail and
say the same: the failures are of one sort, have one message and name one required type. The
operands that failures carry and the records of the runs may differ. `Traced.Alike.bind`
is all that is needed to follow two runs step by step.
-/

set_option autoImplicit false

namespace FilterAlgebra

/-- The sorts of failures. -/
inductive FailureKind where
  | refusal
  | doubleDeclaration
  | invalidity
  | fault (kind : FaultKind)
  deriving DecidableEq

namespace Failure

/-- The sort of a failure. -/
def kind : Failure → FailureKind
  | refused .. => .refusal
  | declaredTwice .. => .doubleDeclaration
  | invalid _ => .invalidity
  | fault f => .fault f.kind

/-- The semantic type that a refusal says was required. -/
def target? : Failure → Option SemanticType
  | refused _ _ target _ => target
  | _ => none

/-- Two failures say the same. The operands that they carry may differ. -/
structure SaysSame (f g : Failure) : Prop where
  kind : f.kind = g.kind
  message : f.message = g.message
  target : f.target? = g.target?

/-- A failure says the same as itself. -/
theorem SaysSame.refl (f : Failure) : f.SaysSame f :=
  ⟨rfl, rfl, rfl⟩

end Failure

namespace Traced

variable {α β γ δ : Type} {R S : α → β → Prop} {first : Traced α} {second : Traced β}

/-- Two runs end alike: with related results, or with failures that say the same. -/
def Alike (R : α → β → Prop) (first : Traced α) (second : Traced β) : Prop :=
  match first.result, second.result with
  | .ok a, .ok b => R a b
  | .error f, .error g => f.SaysSame g
  | _, _ => False

/-- Two runs that only give related results are alike. -/
theorem Alike.pure {a : α} {b : β} (h : R a b) : Alike R (pure a) (pure b) := h

/-- Two runs that only fail, and say the same, are alike. -/
theorem Alike.fail {f g : Failure} (h : f.SaysSame g) : Alike R (fail f) (fail g) := h

/-- Two runs that only record something are alike, whatever they record. -/
theorem Alike.emit {T : Unit → Unit → Prop} {record record' : Record} (h : T () ()) :
    Alike T (Traced.emit record) (Traced.emit record') := h

/-- A run ends like itself. -/
theorem Alike.refl {R : α → α → Prop} (h : ∀ a, R a a) (run : Traced α) : Alike R run run := by
  unfold Alike
  cases run.result with
  | ok a => exact h a
  | error f => exact .refl f

/-- Refusals of different operands for one reason say the same. -/
theorem Alike.refuse {why : Refusal} {v w : Value} {target : Option SemanticType}
    {issues issues' : Option (List Issue)} :
    Alike R (Traced.fail (.refused why v target issues)) (Traced.fail (.refused why w target issues')) :=
  Alike.fail ⟨rfl, rfl, rfl⟩

/-- What follows related results ends alike if it does so for all related results. -/
theorem Alike.bind {T : γ → δ → Prop} {next : α → Traced γ} {next' : β → Traced δ}
    (h : Alike R first second) (hnext : ∀ a b, R a b → Alike T (next a) (next' b)) :
    Alike T (first >>= next) (second >>= next') := by
  unfold Alike at h hnext ⊢
  rw [result_bind, result_bind]
  cases hfirst : first.result with
  | error f =>
    cases hsecond : second.result with
    | error g => simpa [hfirst, hsecond] using h
    | ok b => simp [hfirst, hsecond] at h
  | ok a =>
    cases hsecond : second.result with
    | error g => simp [hfirst, hsecond] at h
    | ok b => exact hnext a b (by simpa [hfirst, hsecond] using h)

/-- After one and the same run only what follows has to be compared. -/
theorem Alike.after {T : γ → δ → Prop} {next : α → Traced γ} {next' : α → Traced δ} (run : Traced α)
    (hnext : ∀ a, Alike T (next a) (next' a)) : Alike T (run >>= next) (run >>= next') :=
  (Alike.refl (R := Eq) (fun _ => rfl) run).bind fun a _ h => h ▸ hnext a

/-- Alike runs stay alike if their results are changed in a related way. -/
theorem Alike.map {T : γ → δ → Prop} {f : α → γ} {g : β → δ} (h : Alike R first second)
    (hmap : ∀ a b, R a b → T (f a) (g b)) : Alike T (f <$> first) (g <$> second) := by
  rw [← bind_pure_comp, ← bind_pure_comp]
  exact h.bind fun a b hab => Alike.pure (hmap a b hab)

/-- The results of two runs that end alike may be related in any way in which all such results are. -/
theorem Alike.of_results (h : Alike R first second)
    (results : ∀ a b, first.result = .ok a → second.result = .ok b → R a b → S a b) :
    Alike S first second := by
  unfold Alike at h ⊢
  cases hfirst : first.result with
  | error f =>
    cases hsecond : second.result with
    | error g => simpa [hfirst, hsecond] using h
    | ok b => simp [hfirst, hsecond] at h
  | ok a =>
    cases hsecond : second.result with
    | error g => simp [hfirst, hsecond] at h
    | ok b => exact results a b hfirst hsecond (by simpa [hfirst, hsecond] using h)

/-- Runs that end alike with equal results have the same results. -/
theorem Alike.result_eq_ok_iff {R : α → α → Prop} {first second : Traced α}
    (h : Alike R first second) (equal : ∀ a b, R a b → a = b) {a : α} :
    first.result = .ok a ↔ second.result = .ok a := by
  unfold Alike at h
  cases hfirst : first.result with
  | error f =>
    cases hsecond : second.result with
    | error g => simp
    | ok b => simp [hfirst, hsecond] at h
  | ok b =>
    cases hsecond : second.result with
    | error g => simp [hfirst, hsecond] at h
    | ok c => rw [equal b c (by simpa [hfirst, hsecond] using h)]

/-- Steps that fail only by faults end alike if they fail by the same fault or not at all. -/
theorem Alike.ofFault {outcome : Except Fault α} {outcome' : Except Fault β}
    (h : (outcome.map fun _ => ()) = outcome'.map fun _ => ()) :
    Alike (fun _ _ => True) (Traced.ofFault outcome) (Traced.ofFault outcome') := by
  cases outcome with
  | ok a =>
    cases outcome' with
    | ok b => trivial
    | error f => simp [Except.map] at h
  | error f =>
    cases outcome' with
    | ok b => simp [Except.map] at h
    | error g =>
      obtain rfl : f = g := by simpa [Except.map] using h
      exact Failure.SaysSame.refl _

end Traced

end FilterAlgebra
