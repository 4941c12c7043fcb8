import FilterAlgebra.Number.Numeral
import Mathlib.Data.List.TakeWhile

/-!
# Canonical numerals

An integer is written as the canonical numeral of its value: a minus sign if it is negative,
then its digits without a leading zero, and a single zero for zero. `Numeral.Canonical` says
which characters are a numeral and of which integer. Every integer has exactly one
(`Numeral.canonical_iff`), no two integers have the same (`Numeral.Canonical.value_unique`), and
a numeral that is not too long is read back as its integer (`Numeral.read_decimal`). One that is
too long is not written at all (`Numeral.decimal?_eq_some_iff`).
-/

set_option autoImplicit false

namespace FilterAlgebra.Numeral

/-- Characters that are the numeral of an integer: digits of which the first is no zero, alone or after
a minus sign, or a single zero. -/
inductive Canonical : List Char → Int → Prop
  | zero : Canonical ['0'] 0
  | positive {first : Char} {rest : List Char} (digits : ∀ c ∈ first :: rest, c.isDigit = true)
    (lead : first ≠ '0') : Canonical (first :: rest) (natOfDigits (first :: rest))
  | negative {first : Char} {rest : List Char} (digits : ∀ c ∈ first :: rest, c.isDigit = true)
    (lead : first ≠ '0') : Canonical ('-' :: first :: rest) (-natOfDigits (first :: rest))

variable {cs : List Char} {c : Char} {k m : Int}

/-! ### Digits and their number -/

/-- The digits of a natural number are read back as the number. -/
theorem natOfDigits_toDigits (n : Nat) : natOfDigits (Nat.toDigits 10 n) = n :=
  Nat.ofDigitChars_toDigits (by decide) (by decide)

/-- A natural number is written with digits. -/
theorem digits_toDigits (n : Nat) : ∀ c ∈ Nat.toDigits 10 n, c.isDigit = true :=
  fun _ => Nat.isDigit_of_mem_toDigits (by decide) (by decide)

/-- Only zero is written with a leading zero. -/
theorem lead_toDigits {n : Nat} (positive : 0 < n) :
    ∃ first rest, Nat.toDigits 10 n = first :: rest ∧ first ≠ '0' := by
  induction n using Nat.strongRecOn with
  | ind n ih =>
    by_cases small : n < 10
    · refine ⟨Nat.digitChar n, [], Nat.toDigits_of_lt_base small, ?_⟩
      intro same
      rw [Nat.digitChar_eq_zero] at same
      omega
    · -- the last digit is split off, and what is left is still positive
      obtain ⟨first, rest, shape, lead⟩ := ih (n / 10) (by omega) (by omega)
      refine ⟨first, rest ++ [Nat.digitChar (n % 10)], ?_, lead⟩
      rw [Nat.toDigits_of_base_le (by decide) (by omega), shape, List.cons_append]

/-- A digit stands for less than ten. -/
theorem digit_lt_ten (digit : c.isDigit = true) : c.toNat - '0'.toNat < 10 := by
  have bounds := Char.isDigit_iff_toNat.mp digit
  have nine : '9'.toNat = '0'.toNat + 9 := rfl
  omega

/-- A digit is the digit of the number that it stands for. -/
theorem digitChar_of_digit (digit : c.isDigit = true) : Nat.digitChar (c.toNat - '0'.toNat) = c := by
  have zero : '0'.toNat = 48 := rfl
  have bounds := Char.isDigit_iff_toNat.mp digit
  rw [← Char.toNat_inj, Nat.toNat_digitChar_of_lt_ten (digit_lt_ten digit)]
  omega

/-- Digits that follow those of a positive number are the last digits of the number they lead to. -/
theorem toDigits_foldl {n : Nat} (positive : 0 < n) (digits : ∀ c ∈ cs, c.isDigit = true) :
    Nat.toDigits 10 (cs.foldl (fun n c => 10 * n + (c.toNat - '0'.toNat)) n) =
      Nat.toDigits 10 n ++ cs := by
  induction cs generalizing n with
  | nil => simp
  | cons c rest ih =>
    have digit := digits c List.mem_cons_self
    have below := digit_lt_ten digit
    rw [List.foldl_cons, ih (by omega) fun d hd => digits d (List.mem_cons_of_mem c hd),
      ← Nat.toDigits_append_toDigits (by decide) positive below, Nat.toDigits_of_lt_base below,
      digitChar_of_digit digit, List.append_assoc, List.singleton_append]

/-- Digits without a leading zero are those of their number. -/
theorem toDigits_natOfDigits {first : Char} {rest : List Char}
    (digits : ∀ c ∈ first :: rest, c.isDigit = true) (lead : first ≠ '0') :
    Nat.toDigits 10 (natOfDigits (first :: rest)) = first :: rest := by
  have digit := digits first List.mem_cons_self
  have positive : 0 < first.toNat - '0'.toNat := by
    have bounds := Char.isDigit_iff_toNat.mp digit
    have other : first.toNat ≠ '0'.toNat := fun same => lead (Char.toNat_inj.mp same)
    omega
  rw [natOfDigits, List.foldl_cons, Nat.mul_zero, Nat.zero_add,
    toDigits_foldl positive fun c hc => digits c (List.mem_cons_of_mem first hc),
    Nat.toDigits_of_lt_base (digit_lt_ten digit), digitChar_of_digit digit, List.singleton_append]

/-! ### The canonical numeral of an integer -/

/-- An integer is written in the canonical way. -/
theorem canonical_chars (k : Int) : Canonical (chars 10 k) k := by
  cases k with
  | ofNat n =>
    cases n with
    | zero => exact .zero
    | succ n =>
      obtain ⟨first, rest, shape, lead⟩ := lead_toDigits (Nat.succ_pos n)
      have canonical := Canonical.positive (shape ▸ digits_toDigits (n + 1)) lead
      rwa [← shape, natOfDigits_toDigits] at canonical
  | negSucc n =>
    obtain ⟨first, rest, shape, lead⟩ := lead_toDigits (Nat.succ_pos n)
    have canonical := Canonical.negative (shape ▸ digits_toDigits (n + 1)) lead
    rwa [← shape, natOfDigits_toDigits] at canonical

/-- A numeral is the numeral of one integer only. -/
theorem Canonical.value_unique (hk : Canonical cs k) (hm : Canonical cs m) : k = m := by
  have sign : '-'.isDigit = false := rfl
  cases hk with
  | zero =>
    cases hm with
    | zero => rfl
    | positive _ lead => exact absurd rfl lead
  | positive digits lead =>
    cases hm with
    | zero => exact absurd rfl lead
    | positive _ _ => rfl
    | negative _ _ => simp [sign] at digits
  | negative digits lead =>
    cases hm with
    | positive digits' _ => simp [sign] at digits'
    | negative _ _ => rfl

/-- Every integer has one canonical numeral, the one it is written as. -/
theorem canonical_iff : Canonical cs k ↔ cs = chars 10 k := by
  constructor
  · intro canonical
    cases canonical with
    | zero => rfl
    | positive digits lead => exact (toDigits_natOfDigits digits lead).symm
    | negative digits lead =>
      have written := toDigits_natOfDigits digits lead
      cases value : natOfDigits _ with
      | zero =>
        rw [value, Nat.toDigits_zero] at written
        exact absurd (List.cons.inj written).1.symm lead
      | succ n =>
        rw [value] at written
        rw [← written]
        rfl
  · rintro rfl
    exact canonical_chars k

/-- The numeral of an integer is its only canonical one. -/
theorem canonical_iff_eq_decimal {text : String} : Canonical text.toList k ↔ text = decimal k := by
  rw [canonical_iff, decimal, ← String.toList_inj, String.toList_ofList]

/-- Integers with one numeral are equal. -/
theorem decimal_injective (same : decimal k = decimal m) : k = m :=
  (canonical_iff_eq_decimal.mpr rfl).value_unique (canonical_iff_eq_decimal.mpr same)

/-- No integer is written with nothing. -/
theorem chars_ne_nil (k : Int) : chars 10 k ≠ [] := by
  cases k <;> simp [chars, Nat.toDigits_ne_nil]

/-- An integer is written with digits, and perhaps a sign. -/
theorem digit_of_mem_chars {k : Int} {c : Char} (h : c ∈ chars 10 k) :
    c.isDigit = true ∨ c = '-' := by
  cases k with
  | ofNat m => exact .inl (Nat.isDigit_of_mem_toDigits (by decide) (by decide) h)
  | negSucc m =>
    cases List.mem_cons.mp h with
    | inl h => exact .inr h
    | inr h => exact .inl (Nat.isDigit_of_mem_toDigits (by decide) (by decide) h)

/-! ### Reading -/

/-- A digit is plain already, and no blank. -/
theorem plain_of_digit (digit : c.isDigit = true) :
    plainNumeralChar c = c ∧ isPlainBlank c = false := by
  have bounds := Char.isDigit_iff_toNat.mp digit
  have zero : '0'.toNat = 48 := rfl
  have nine : '9'.toNat = 57 := rfl
  constructor
  · rw [plainNumeralChar, if_pos (by omega)]
  · have noSpace : c ≠ ' ' := by
      rintro rfl
      simp at digit
    have high : ¬c.toNat ≤ 13 := by omega
    simp [isPlainBlank, noSpace, high]

/-- Between digits there is nothing to be taken out. -/
theorem joinDigits_digits (nonempty : cs ≠ []) (digits : ∀ c ∈ cs, c.isDigit = true) :
    joinDigits cs = some cs := by
  induction cs with
  | nil => exact absurd rfl nonempty
  | cons c rest ih =>
    have digit := digits c List.mem_cons_self
    cases rest with
    | nil => simp [joinDigits, digit]
    | cons d others =>
      have later := ih (by simp) fun e he => digits e (List.mem_cons_of_mem c he)
      have noLine : d ≠ '_' := by
        rintro rfl
        simpa using digits '_' (by simp)
      rw [joinDigits, if_pos digit, later]
      · rfl
      · simp
      · rintro others' same
        exact noLine (List.cons.inj same).1

/-- What is left after an optional sign is read as the number of its digits. -/
theorem readChars_digits {text : List Char} {negative : Bool}
    (sign : readSign (text.dropWhile isPlainBlank) = (negative, cs)) (nonempty : cs ≠ [])
    (digits : ∀ c ∈ cs, c.isDigit = true) (short : cs.length ≤ maxDigits) :
    readChars text = .ok (if negative then -(natOfDigits cs : Int) else natOfDigits cs) := by
  have run : cs.takeWhile (fun c => c.isDigit || c == '_') = cs :=
    List.takeWhile_eq_self_iff.mpr fun c hc => by simp [digits c hc]
  have number : ofDigits negative cs =
      .ok (if negative then -(natOfDigits cs : Int) else natOfDigits cs) := by
    rw [ofDigits, if_neg (by omega)]
  simp only [readChars, sign, run, joinDigits_digits nonempty digits, number, List.drop_length]
  rfl

/-- Digits have no sign in front of them. -/
theorem readSign_digits (digits : ∀ c ∈ cs, c.isDigit = true) : readSign cs = (false, cs) := by
  unfold readSign
  split
  · simpa using digits '-' List.mem_cons_self
  · simpa using digits '+' List.mem_cons_self
  · rfl

/-- An integer is read back from its numeral, if that is not too long to be read. -/
theorem read_decimal (short : (Nat.toDigits 10 k.natAbs).length ≤ maxDigits) :
    read (decimal k) = .ok k := by
  have plain {c : Char} (among : c ∈ chars 10 k) : plainNumeralChar c = c ∧ isPlainBlank c = false := by
    cases digit_of_mem_chars among with
    | inl digit => exact plain_of_digit digit
    | inr sign => exact sign ▸ ⟨rfl, rfl⟩
  have ascii : (chars 10 k).map plainNumeralChar = chars 10 k :=
    (List.map_congr_left fun c among => (plain among).1).trans (List.map_id' _)
  have unblank : (chars 10 k).dropWhile isPlainBlank = chars 10 k := by
    obtain ⟨c, rest, shape⟩ := List.exists_cons_of_ne_nil (chars_ne_nil k)
    have blank := (plain (shape ▸ List.mem_cons_self : c ∈ chars 10 k)).2
    simp [shape, blank]
  have sign : readSign (chars 10 k) = (decide (k < 0), Nat.toDigits 10 k.natAbs) := by
    cases k with
    | ofNat n => exact (readSign_digits (digits_toDigits n)).trans (by simp)
    | negSucc n => simp [chars, readSign]
  have signed : (if decide (k < 0) then -(k.natAbs : Int) else k.natAbs) = k := by
    simp only [decide_eq_true_eq]
    split <;> omega
  rw [read, decimal, String.toList_ofList, ascii,
    readChars_digits (unblank.symm ▸ sign) Nat.toDigits_ne_nil (digits_toDigits _) short,
    natOfDigits_toDigits, signed]

/-! ### Which numerals are written -/

/-- The natural numbers below the bound are those of at most so many digits. -/
theorem length_toDigits_le_iff {n : Nat} : (Nat.toDigits 10 n).length ≤ maxDigits ↔ n < bound := by
  have power (digits : Nat) : tenTo digits = 10 ^ digits := rfl
  rw [Nat.length_toDigits_le_iff (by decide) (by decide), bound, power]

/-- A numeral is written exactly if the integer does not have too many digits. -/
theorem decimal?_eq_some_iff {k : Int} {text : String} :
    decimal? k = some text ↔ (Nat.toDigits 10 k.natAbs).length ≤ maxDigits ∧ text = decimal k := by
  rw [length_toDigits_le_iff, decimal?, eq_comm (a := text)]
  split
  · rename_i h
    simp [h]
  · rename_i h
    simp [h]

/-- An integer that is not written has too many digits. -/
theorem decimal?_eq_none_iff {k : Int} :
    decimal? k = none ↔ ¬(Nat.toDigits 10 k.natAbs).length ≤ maxDigits := by
  constructor
  · intro h short
    rw [decimal?_eq_some_iff.mpr ⟨short, rfl⟩] at h
    cases h
  · intro long
    exact Option.eq_none_iff_forall_ne_some.mpr fun text h => long (decimal?_eq_some_iff.mp h).1

/-- The first integer of too many digits has no numeral. -/
theorem decimal?_bound : decimal? bound = none := by
  -- the bound stays a name here, for its value is too long to compute with
  rw [decimal?, Int.natAbs_natCast, if_neg (Nat.lt_irrefl bound)]

end FilterAlgebra.Numeral
