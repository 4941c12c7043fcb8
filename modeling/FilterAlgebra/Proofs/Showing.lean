import FilterAlgebra.Proofs.Defaults

/-!
# Which values can be shown

Most values have an inspection form. An integer of too many digits has none, an object or a
type may lack one, and whatever shows such a part has none either. `Value.parts` lists the
values whose forms go into that of a value, and `Value.ownFault?` says what may be wrong with
a value besides. The form of a value fails by the fault of the first part that has none, or
else by its own (`Value.fault?_inspect`). Hence a value has a form exactly if nothing that it
shows is at fault (`Value.inspect_eq_ok_iff`).
-/

set_option autoImplicit false

namespace FilterAlgebra

namespace Inspection

variable {α β : Type}

/-- The fault by which an outcome fails. -/
def fault? : Except Fault α → Option Fault
  | .ok _ => none
  | .error f => some f

/-- An outcome is free of faults exactly if it is a result. -/
theorem fault?_eq_none_iff {outcome : Except Fault α} :
    fault? outcome = none ↔ ∃ a, outcome = .ok a := by
  cases outcome <;> simp [fault?]

/-- The fault of an outcome is what it ends with. -/
theorem fault?_eq_some_iff {outcome : Except Fault α} {f : Fault} :
    fault? outcome = some f ↔ outcome = .error f := by
  cases outcome <;> simp [fault?]

/-- What is made of a result adds no fault. -/
theorem fault?_bind_pure (outcome : Except Fault α) (text : α → β) :
    fault? (outcome >>= fun a => pure (text a)) = fault? outcome := by
  cases outcome <;> rfl

/-- Of two steps the first that fails is to blame. -/
theorem fault?_bind {outcome : Except Fault α} {next : α → Except Fault β} {later : Option Fault}
    (h : ∀ a, fault? (next a) = later) :
    fault? (outcome >>= next) = (fault? outcome).or later := by
  cases outcome with
  | error f => rfl
  | ok a => exact h a

/-- Forms that are shown one after the other fail by the first that is none. -/
theorem fault?_all (forms : List (Except Fault String)) :
    fault? (all forms) = forms.findSome? fault? := by
  induction forms with
  | nil => rfl
  | cons form rest ih =>
    have step : all (form :: rest) =
        form >>= fun first => all rest >>= fun others => pure (first :: others) := by
      simp [all]
    rw [step, fault?_bind fun first => (fault?_bind_pure (all rest) (first :: ·)).trans ih,
      List.findSome?_cons]
    cases fault? form <;> rfl

/-- Items are inspected one by one. -/
theorem inspectEach_eq_map (items : List Value) : inspectEach items = items.map Value.inspect := by
  induction items with
  | nil => rfl
  | cons item rest ih => rw [inspectEach, ih, List.map_cons]

/-- An entry has the fault of its key, or else that of its value. -/
theorem fault?_entry (key value : Except Fault String) :
    fault? (entry key value) = (fault? key).or (fault? value) :=
  fault?_bind fun first => fault?_bind_pure value (first ++ ": " ++ ·)

/-- A mapping fails by the first fault among its entries, of which each shows its key first. -/
theorem fault?_mapping (keys : List α) (values : List β) (showKey : α → Except Fault String)
    (showValue : β → Except Fault String) :
    fault? (mapping (keys.map showKey) (values.map showValue)) =
      (keys.zip values).findSome? fun entry =>
        (fault? (showKey entry.1)).or (fault? (showValue entry.2)) := by
  rw [mapping, fault?_bind_pure, fault?_all, List.zipWith_map, ← List.map_uncurry_zip_eq_zipWith,
    List.findSome?_map]
  congr 1
  funext pair
  exact fault?_entry (showKey pair.1) (showValue pair.2)

end Inspection

open Inspection

namespace Value

/-- The values whose inspection forms go into that of a value, in their order. -/
def parts : Value → List Value
  | node (.call _ arg _) => [arg]
  | node (.binary left _ right _) => [left, right]
  | list items | tuple items => items
  | dict keys values => (keys.zip values).flatMap fun entry => [entry.1, entry.2]
  | listing names members => (names.zip members).map (·.2)
  | _ => []

/-- Why a value has no inspection form even if its parts have one. -/
def ownFault? : Value → Option Fault
  | int n =>
    if (Nat.toDigits 10 n.natAbs).length ≤ Numeral.maxDigits then Option.none
    else some .tooManyDigits
  | node (.literal t _) | node (.call _ _ t) | node (.binary _ _ _ t) | type t => fault? t.inspect
  | derived h _ | object h => fault? h.shown
  | _ => Option.none

/-- The inspection form of a value contains that of another. -/
inductive Shows : Value → Value → Prop
  | itself (v : Value) : Shows v v
  | within {v part w : Value} (among : part ∈ v.parts) (inside : Shows part w) : Shows v w

/-- Nothing that a value shows is at fault. -/
def Showable (v : Value) : Prop :=
  ∀ w, v.Shows w → w.ownFault? = Option.none

/-- The first fault among entries is found key by key, each with its value. -/
theorem findSome?_entries (entries : List (Value × Value)) (fault : Value → Option Fault) :
    (entries.flatMap fun entry => [entry.1, entry.2]).findSome? fault =
      entries.findSome? fun entry => (fault entry.1).or (fault entry.2) := by
  induction entries with
  | nil => rfl
  | cons entry rest ih =>
    rw [List.flatMap_cons, List.findSome?_append, ih]
    cases hkey : fault entry.1 <;> cases hvalue : fault entry.2 <;>
      simp [hkey, hvalue]

/-- The numeral of an integer fails exactly for too many digits. -/
theorem fault?_written (n : Int) :
    fault? (Numeral.written n) =
      if (Nat.toDigits 10 n.natAbs).length ≤ Numeral.maxDigits then Option.none
      else some .tooManyDigits := by
  cases h : Numeral.decimal? n with
  | some text =>
    have short := (Numeral.decimal?_eq_some_iff.mp h).1
    simp [Numeral.written, h, Fault.ofOption, fault?, short]
  | none =>
    have long := Numeral.decimal?_eq_none_iff.mp h
    simp [Numeral.written, h, Fault.ofOption, fault?, long]

/-- A node is inspected with the first fault of its parts, or else with a fault of its own. -/
theorem fault?_inspect_node (n : Node) :
    fault? n.inspect =
      ((node n).parts.findSome? fun part => fault? part.inspect).or (node n).ownFault? := by
  cases n with
  | property kind name => rfl
  | literal type text =>
    rw [Node.inspect]
    exact fault?_bind_pure type.inspect _
  | call function arg type =>
    rw [Node.inspect, fault?_bind fun _ => fault?_bind_pure type.inspect _]
    cases h : fault? arg.inspect <;> simp [parts, ownFault?, h]
  | binary left sign right type =>
    rw [Node.inspect, fault?_bind fun _ => fault?_bind fun _ => fault?_bind_pure type.inspect _]
    cases hl : fault? left.inspect <;> cases hr : fault? right.inspect <;>
      simp [parts, ownFault?, hl, hr]

/-- The form of a value fails by the first of its parts that has none, or else by its own fault. -/
theorem fault?_inspect (v : Value) :
    fault? v.inspect = (v.parts.findSome? fun part => fault? part.inspect).or v.ownFault? := by
  cases v with
  | node n => exact fault?_inspect_node n
  | int n => exact fault?_written n
  | list items | tuple items =>
    rw [Value.inspect, fault?_bind_pure, fault?_all, inspectEach_eq_map, List.findSome?_map]
    simp [parts, ownFault?, Function.comp_def]
  | dict keys values =>
    rw [Value.inspect, inspectEach_eq_map, inspectEach_eq_map, fault?_mapping, parts,
      findSome?_entries]
    simp [ownFault?]
  | listing names members =>
    rw [Value.inspect, fault?_bind_pure, inspectEach_eq_map, fault?_mapping, parts,
      List.findSome?_map]
    simp [ownFault?, fault?, Function.comp_def]
  | type t => rfl
  | derived h held | object h => rfl
  | none | bool b | customInt n | color c | float x | customFloat x | text t | bytes content
  | decimal d | style s => rfl

/-- The parts of a value are smaller than the value. -/
theorem sizeOf_lt_of_mem_parts {v part : Value} (among : part ∈ v.parts) :
    sizeOf part < sizeOf v := by
  unfold parts at among
  split at among
  · rename_i function arg type
    obtain rfl := List.mem_singleton.mp among
    simp only [node.sizeOf_spec, Node.call.sizeOf_spec]
    omega
  · rename_i left sign right type
    simp only [node.sizeOf_spec, Node.binary.sizeOf_spec]
    rcases List.mem_pair.mp among with rfl | rfl <;> omega
  · rename_i items
    have smaller := List.sizeOf_lt_of_mem among
    simp only [list.sizeOf_spec]
    omega
  · rename_i items
    have smaller := List.sizeOf_lt_of_mem among
    simp only [tuple.sizeOf_spec]
    omega
  · rename_i keys values
    obtain ⟨⟨key, value⟩, hentry, hpart⟩ := List.mem_flatMap.mp among
    obtain ⟨hkey, hvalue⟩ := List.of_mem_zip hentry
    have smallerKey := List.sizeOf_lt_of_mem hkey
    have smallerValue := List.sizeOf_lt_of_mem hvalue
    simp only [dict.sizeOf_spec]
    rcases List.mem_pair.mp hpart with rfl | rfl <;> omega
  · rename_i names members
    obtain ⟨⟨name, member⟩, hentry, rfl⟩ := List.mem_map.mp among
    have smaller := List.sizeOf_lt_of_mem (List.of_mem_zip hentry).2
    simp only [listing.sizeOf_spec]
    omega
  · cases among

/-- A value without an inspection form shows something by whose fault it has none. -/
theorem fault_of_inspect {v : Value} {f : Fault} (h : v.inspect = .error f) :
    ∃ w, v.Shows w ∧ w.ownFault? = some f := by
  -- down to the first part without a form, as long as there is one
  have hfault := fault?_eq_some_iff.mpr h
  rw [fault?_inspect, Option.or_eq_some_iff] at hfault
  rcases hfault with hpart | ⟨-, hown⟩
  · obtain ⟨part, among, hpart⟩ := List.exists_of_findSome?_eq_some hpart
    have smaller := sizeOf_lt_of_mem_parts among
    obtain ⟨w, inside, hw⟩ := fault_of_inspect (fault?_eq_some_iff.mp hpart)
    exact ⟨w, .within among inside, hw⟩
  · exact ⟨v, .itself v, hown⟩
termination_by sizeOf v

/-- What a value with an inspection form shows is not at fault. -/
theorem showable_of_inspect {v : Value} {shown : String} (h : v.inspect = .ok shown) :
    v.Showable := by
  intro w shows
  -- along the way from the value to what it shows: every part on it has a form
  induction shows generalizing shown with
  | itself v =>
    have hfault := fault?_eq_none_iff.mpr ⟨shown, h⟩
    rw [fault?_inspect, Option.or_eq_none_iff] at hfault
    exact hfault.2
  | within among inside ih =>
    have hfault := fault?_eq_none_iff.mpr ⟨shown, h⟩
    rw [fault?_inspect, Option.or_eq_none_iff, List.findSome?_eq_none_iff] at hfault
    obtain ⟨_, hpart⟩ := fault?_eq_none_iff.mp (hfault.1 _ among)
    exact ih hpart

/-- A value has an inspection form exactly if nothing that it shows is at fault. -/
theorem inspect_eq_ok_iff {v : Value} : (∃ shown, v.inspect = .ok shown) ↔ v.Showable := by
  constructor
  · rintro ⟨shown, h⟩
    exact showable_of_inspect h
  · intro showable
    cases h : v.inspect with
    | ok shown => exact ⟨shown, rfl⟩
    | error f =>
      obtain ⟨w, shows, hw⟩ := fault_of_inspect h
      rw [showable w shows] at hw
      cases hw

end Value

end FilterAlgebra
