import FilterAlgebra.Proofs.Dispatch
import FilterAlgebra.Proofs.Rejection

/-!
# Integer literals

The capability of integers writes an integer of any form, of any size and sign as its canonical
numeral, and the only thing that can go wrong is that the numeral would have more than 4300
digits. A bundle that picks this capability for integers lifts them to the same literals.
`Node.integers_written_exactly` is the main result.
-/

set_option autoImplicit false

namespace FilterAlgebra

namespace Value

variable {v : Value} {k : Int}

/-- An integer is raw. -/
theorem isNode_of_integer? (h : v.integer? = some k) : v.isNode = false := by
  cases v <;> simp_all [isNode]

/-- An integer is within the limit of digits exactly if its magnitude is below the bound. -/
theorem withinDigits_iff (h : v.integer? = some k) : v.WithinDigits ↔ k.natAbs < Numeral.bound := by
  rw [← Numeral.length_toDigits_le_iff]
  constructor
  · intro within
    exact within k h
  · intro short other same
    rwa [← Option.some.inj (h.symm.trans same)]

end Value

namespace Node

variable {v : Value} {k : Int}

/-- An integer below the bound becomes a literal. -/
theorem integer_of_lt (h : v.integer? = some k) (small : k.natAbs < Numeral.bound) :
    integer v = pure (.literal .int (Numeral.decimal k)) :=
  Capability.asExpression_of_writes
    (StandardCapability.integer_writes_iff.mpr ⟨k, h, Numeral.length_toDigits_le_iff.mpr small, rfl⟩)

/-- An integer beyond the bound cannot be written. -/
theorem integer_of_ge (h : v.integer? = some k) (large : Numeral.bound ≤ k.natAbs) :
    integer v = Traced.fail (.fault .tooManyDigits) :=
  StandardCapability.integer_asExpression_of_long fun within =>
    Nat.not_lt.mpr large ((Value.withinDigits_iff h).mp within)

/-- Whatever becomes an integer literal is an integer, and the literal is its numeral. -/
theorem integer?_of_integer {n : Node} (h : (integer v).result = .ok n) :
    ∃ k, v.integer? = some k ∧ n = .literal .int (Numeral.decimal k) := by
  obtain ⟨text, writes, rfl⟩ := Capability.asExpression_eq_ok_iff.mp h
  obtain ⟨k, hk, -, rfl⟩ := StandardCapability.integer_writes_iff.mp writes
  exact ⟨k, hk, rfl⟩

end Node

/-- A bundle that serves integers by the capability of integers lifts them to integer literals. -/
theorem Bundle.lift_int {bundle : Bundle} {v : Value}
    (serves : bundle.capability? .int = some StandardCapability.integer.toCapability)
    (raw : v.isNode = false) : bundle.lift v .int = Value.node <$> Node.integer v := by
  have picked : bundle.pick? v .int = some StandardCapability.integer.toCapability := serves
  rw [lift_raw bundle raw, picked]
  rfl

/-- **Integers are written exactly, at every size at which they are written at all.** An integer of
fewer than 4301 digits, of any form and sign, becomes the literal of its one canonical numeral, from
which it can be read back; a larger one becomes no node and fails for its digits. Lifting to integers
does the same in every bundle in which the capability of integers is the first to serve them. No two
integers become literals of one text. -/
theorem Node.integers_written_exactly :
    (∀ v k, v.integer? = some k →
      (k.natAbs < tenTo 4300 → ∃ text, Node.integer v = pure (.literal .int text) ∧
        (∀ other : String, Numeral.Canonical other.toList k ↔ other = text) ∧
        Numeral.read text = .ok k) ∧
      (tenTo 4300 ≤ k.natAbs → Node.integer v = Traced.fail (.fault .tooManyDigits) ∧
        Fault.tooManyDigits.kind = .value) ∧
      ∀ bundle : Bundle, bundle.capability? .int = some StandardCapability.integer.toCapability →
        bundle.lift v .int = Value.node <$> Node.integer v) ∧
    ∀ v w text, (Node.integer v).result = .ok (.literal .int text) →
      (Node.integer w).result = .ok (.literal .int text) → v.integer? = w.integer? := by
  constructor
  · intro v k h
    refine ⟨fun small => ?_, fun large => ⟨Node.integer_of_ge h large, rfl⟩, fun bundle serves =>
      Bundle.lift_int serves (Value.isNode_of_integer? h)⟩
    exact ⟨_, Node.integer_of_lt h small, fun other => Numeral.canonical_iff_eq_decimal,
      Numeral.read_decimal (Numeral.length_toDigits_le_iff.mpr small)⟩
  · intro v w text hv hw
    obtain ⟨k, hk, hv⟩ := Node.integer?_of_integer hv
    obtain ⟨m, hm, hw⟩ := Node.integer?_of_integer hw
    have same := (Node.literal.inj hv).2.symm.trans (Node.literal.inj hw).2
    rw [hk, hm, Numeral.decimal_injective same]

/-- A negative integer of a special form, the plain one of its value, and the first integer that is
too large. -/
theorem Node.integers_written_exactly_of_blue :
    let blue := Value.color .blue
    Node.integer blue = pure (.literal .int "-2") ∧ Numeral.read "-2" = .ok (-2) ∧
      (Bundle.default {}).lift blue .int = Value.node <$> Node.integer blue ∧
      Node.integer (.int Numeral.bound) = Traced.fail (.fault .tooManyDigits) ∧
      blue.integer? = (Value.int (-2)).integer? := by
  intro blue
  obtain ⟨exact, distinct⟩ := Node.integers_written_exactly
  obtain ⟨small, -, lifts⟩ := exact blue (-2) rfl
  obtain ⟨plainSmall, -, -⟩ := exact (.int (-2)) (-2) rfl
  obtain ⟨-, large, -⟩ := exact (.int Numeral.bound) Numeral.bound rfl
  have short : (-2 : Int).natAbs < Numeral.bound := Numeral.length_toDigits_le_iff.mp (by decide)
  obtain ⟨text, written, canonical, readable⟩ := small short
  obtain ⟨plainText, plainWritten, plainCanonical, -⟩ := plainSmall short
  have numeral : Numeral.Canonical "-2".toList (-2) := Numeral.canonical_iff.mpr (by decide)
  have huge : tenTo 4300 ≤ (Numeral.bound : Int).natAbs :=
    Nat.le_of_eq (Int.natAbs_natCast Numeral.bound).symm
  obtain rfl := (canonical "-2").mp numeral
  obtain rfl := (plainCanonical "-2").mp numeral
  exact ⟨written, readable, lifts _ rfl, (large huge).1,
    distinct blue (.int (-2)) "-2" (by rw [written]; rfl) (by rw [plainWritten]; rfl)⟩

end FilterAlgebra
