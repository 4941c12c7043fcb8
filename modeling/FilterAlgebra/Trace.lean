import FilterAlgebra.Failure

/-!
# Runs and their records

While a filter is built, what happens is recorded. A run is the list of its
records together with how it ends: with a result or with a failure. The records
of a run that fails are kept. `Traced.records_bind` and `Traced.result_bind` say
how runs compose; everything about records rests on these two.
-/

set_option autoImplicit false

namespace FilterAlgebra

/-- What can be recorded. -/
inductive Record where
  /-- A capability rejects a value in a conversion. -/
  | rejected (capability : String) (value : Value) (shown : String) (issues : Nat)
  /-- A filter is built over so many capabilities. -/
  | building (capabilities : Nat)
  /-- A filter is built over so many adapters. -/
  | buildingUnified (adapters : Nat)
  /-- No type is within reach of both operands of a comparison. -/
  | noCommonType (left right : Value) (leftShown rightShown : String)
  /-- A property set is defined. -/
  | registered (properties : Nat) (set : String)

namespace Record

/-- The channel a record goes to. -/
def channel : Record → String
  | rejected .. => "typed_filter.capabilities"
  | building _ => "typed_filter.scope"
  | buildingUnified _ | noCommonType .. => "typed_filter.unified"
  | registered .. => "typed_filter.schema"

/-- A record in words. -/
def message : Record → String
  | rejected capability _ shown issues =>
    capability ++ " rejected " ++ shown ++ " (" ++ toString issues ++ " error(s))"
  | building capabilities =>
    "Building filter with " ++ toString capabilities ++ " capabilities active"
  | buildingUnified adapters =>
    "Building filter with " ++ toString adapters ++ " unified capabilities active"
  | noCommonType _ _ left right => "eq2 found no common type for " ++ left ++ " and " ++ right
  | registered properties set =>
    "Registered " ++ toString properties ++ " properties on " ++ set

end Record

/-- A run: its records in order, and how it ends. -/
structure Traced (α : Type) where
  records : List Record
  result : Except Failure α

namespace Traced

variable {α β : Type}

/-- The first run, and then, if it has a result, the run that follows from the result. -/
def andThen (first : Traced α) (next : α → Traced β) : Traced β :=
  match first.result with
  | .error failure => ⟨first.records, .error failure⟩
  | .ok a => ⟨first.records ++ (next a).records, (next a).result⟩

instance : Monad Traced where
  pure a := ⟨[], .ok a⟩
  bind := andThen

/-- A step without records. -/
def ofExcept (outcome : Except Failure α) : Traced α :=
  ⟨[], outcome⟩

instance : MonadLift (Except Failure) Traced := ⟨ofExcept⟩

/-- A step without records that fails only by a fault. -/
def ofFault (outcome : Except Fault α) : Traced α :=
  ofExcept (outcome.mapError .fault)

/-- A run that only records. -/
def emit (record : Record) : Traced Unit :=
  ⟨[record], .ok ()⟩

/-- A run that only fails. -/
def fail (failure : Failure) : Traced α :=
  ⟨[], .error failure⟩

@[simp] theorem records_pure (a : α) : (pure a : Traced α).records = [] := rfl

@[simp] theorem result_pure (a : α) : (pure a : Traced α).result = .ok a := rfl

@[simp] theorem records_fail (failure : Failure) : (fail failure : Traced α).records = [] := rfl

@[simp] theorem result_fail (failure : Failure) : (fail failure : Traced α).result = .error failure := rfl

@[simp] theorem records_emit (record : Record) : (emit record).records = [record] := rfl

@[simp] theorem result_emit (record : Record) : (emit record).result = .ok () := rfl

@[simp] theorem records_ofExcept (outcome : Except Failure α) : (ofExcept outcome).records = [] := rfl

@[simp] theorem result_ofExcept (outcome : Except Failure α) : (ofExcept outcome).result = outcome := rfl

/-- The records of a composed run: those of the first part, then those of what follows a result. -/
theorem records_bind (first : Traced α) (next : α → Traced β) :
    (first >>= next).records =
      match first.result with
      | .error _ => first.records
      | .ok a => first.records ++ (next a).records := by
  show (first.andThen next).records = _
  unfold andThen
  cases first.result <;> rfl

/-- A composed run ends as its first part does if that fails, and as what follows otherwise. -/
theorem result_bind (first : Traced α) (next : α → Traced β) :
    (first >>= next).result =
      match first.result with
      | .error failure => .error failure
      | .ok a => (next a).result := by
  show (first.andThen next).result = _
  unfold andThen
  cases first.result <;> rfl

/-- Two runs with the same records and the same end are the same run. -/
theorem ext {first second : Traced α} (records : first.records = second.records)
    (result : first.result = second.result) : first = second := by
  cases first
  cases second
  simp_all

theorem bind_pure_id (run : Traced α) : (run >>= fun a => pure (id a)) = run :=
  ext (by rw [records_bind]; cases run.result <;> simp)
    (by rw [result_bind]; cases run.result <;> rfl)

theorem pure_bind_next (a : α) (next : α → Traced β) : (pure a >>= next) = next a :=
  ext (by rw [records_bind]; simp) (by rw [result_bind]; simp)

theorem bind_assoc_next {γ : Type} (run : Traced α) (next : α → Traced β) (last : β → Traced γ) :
    (run >>= next >>= last) = run >>= fun a => next a >>= last := by
  apply ext
  · simp only [records_bind, result_bind]
    cases run.result with
    | error failure => rfl
    | ok a => cases h : (next a).result <;> simp [h, List.append_assoc]
  · simp only [result_bind]
    cases run.result <;> rfl

instance : LawfulMonad Traced :=
  LawfulMonad.mk' Traced bind_pure_id pure_bind_next bind_assoc_next

@[simp] theorem ofFault_ok (a : α) : ofFault (.ok a) = pure a := rfl

@[simp] theorem ofFault_error (f : Fault) : (ofFault (.error f) : Traced α) = fail (.fault f) := rfl

@[simp] theorem fail_bind (failure : Failure) (next : α → Traced β) :
    (fail failure >>= next) = fail failure := rfl

/-- A composed run has a result exactly if both parts have one. -/
theorem result_bind_eq_ok {first : Traced α} {next : α → Traced β} {b : β} :
    (first >>= next).result = .ok b ↔ ∃ a, first.result = .ok a ∧ (next a).result = .ok b := by
  rw [result_bind]
  cases first.result <;> simp

/-- A check followed by a run has a result exactly if the check passes and the run has one. -/
theorem result_check_eq_ok {check : Traced Unit} {next : Unit → Traced β} {b : β} :
    (check >>= next).result = .ok b ↔ check.result = .ok () ∧ (next ()).result = .ok b :=
  result_bind_eq_ok.trans ⟨fun ⟨_, hcheck, hnext⟩ => ⟨hcheck, hnext⟩, fun h => ⟨(), h⟩⟩

theorem result_map_eq_ok {f : α → β} {run : Traced α} {b : β} :
    (f <$> run).result = .ok b ↔ ∃ a, run.result = .ok a ∧ f a = b := by
  rw [← bind_pure_comp, result_bind_eq_ok]
  simp

theorem result_ofFault_eq_ok {outcome : Except Fault α} {a : α} :
    (ofFault outcome).result = .ok a ↔ outcome = .ok a := by
  cases outcome <;> simp

end Traced

end FilterAlgebra
