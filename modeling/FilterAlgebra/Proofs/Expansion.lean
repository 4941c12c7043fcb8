import FilterAlgebra.Proofs.Adapters

/-!
# The adapters of a bundle

The adapters of a bundle take a raw value to a type through the first capability of that
type that accepts it (`find?_ofBundle_raw`), and a node to its own type if that is the
type of a capability or the truth type (`find?_ofBundle_node`). The types are searched in
the order of registration, each once and the truth type last unless a capability serves it
(`targetTypes_ofBundle`).
-/

set_option autoImplicit false

namespace FilterAlgebra

/-- The types of the capabilities of a bundle, in the order of registration. -/
def Bundle.types (bundle : Bundle) : List SemanticType :=
  bundle.capabilities.map (·.type)

/-- The types that the adapters of a bundle lead to. -/
def Bundle.reachable (bundle : Bundle) : List SemanticType :=
  bundle.types ++ [.bool]

/-- Without its repetitions a list holds nothing twice. -/
theorem nodup_eraseDups {α : Type} [BEq α] [LawfulBEq α] : ∀ members : List α, members.eraseDups.Nodup
  | [] => List.nodup_nil
  | a :: rest => by
    rw [List.eraseDups_cons, List.nodup_cons]
    exact ⟨by simp [List.mem_eraseDups], nodup_eraseDups (rest.filter fun b => !b == a)⟩
termination_by members => members.length
decreasing_by
  have := List.length_filter_le (fun b => !b == a) rest
  simp only [List.length_cons]
  omega

namespace AdapterSet

/-- Leaving out repetitions does not change what is found first. -/
theorem find?_distinctTypes (types : List SemanticType) (p : SemanticType → Bool) :
    (distinctTypes types).find? p = types.find? p := by
  suffices h : ∀ seen : List SemanticType,
      (types.foldl (fun seen type => if type ∈ seen then seen else seen ++ [type]) seen).find? p =
        (seen ++ types).find? p by
    simpa [distinctTypes] using h []
  induction types with
  | nil => simp
  | cons type rest ih =>
    intro seen
    rw [List.foldl_cons, ih]
    by_cases hmem : type ∈ seen
    · -- a type seen before is found, if at all, where it was seen
      simp only [hmem, if_true, List.find?_append]
      cases hseen : seen.find? p with
      | some found => simp
      | none =>
        have hp : p type = false := by simpa using List.find?_eq_none.mp hseen type hmem
        simp [hp]
    · simp [hmem]

/-- The types of a list are seen in turn, and each that is new comes last. -/
theorem foldl_distinctTypes (types seen : List SemanticType) :
    types.foldl (fun seen type => if type ∈ seen then seen else seen ++ [type]) seen =
      seen ++ (types.filter (· ∉ seen)).eraseDups := by
  induction types generalizing seen with
  | nil => simp
  | cons type rest ih =>
    rw [List.foldl_cons, ih]
    by_cases known : type ∈ seen
    · simp [known]
    · have later : rest.filter (· ∉ seen ++ [type]) =
          (rest.filter (· ∉ seen)).filter (fun other => !other == type) := by
        rw [List.filter_filter]
        refine List.filter_congr fun other _ => ?_
        by_cases same : other = type <;> simp [same, known]
      rw [if_neg known, later, List.filter_cons_of_pos (by simpa using known), List.eraseDups_cons,
        List.append_assoc, List.singleton_append]

/-- The types of adapters are listed without repetitions, the first of each kept. -/
theorem distinctTypes_eq_eraseDups (types : List SemanticType) :
    distinctTypes types = types.eraseDups := by
  rw [distinctTypes, foldl_distinctTypes, List.nil_append, List.filter_eq_self.mpr (by simp)]

/-- A type that follows itself is not seen again. -/
theorem eraseDups_twice (types rest : List SemanticType) :
    (types.flatMap (fun type => [type, type]) ++ rest).eraseDups = (types ++ rest).eraseDups := by
  let see (seen : List SemanticType) (type : SemanticType) := if type ∈ seen then seen else seen ++ [type]
  suffices twice : ∀ seen, (types.flatMap fun type => [type, type]).foldl see seen = types.foldl see seen by
    rw [← distinctTypes_eq_eraseDups, ← distinctTypes_eq_eraseDups, distinctTypes, distinctTypes,
      List.foldl_append, List.foldl_append]
    exact congrArg (fun seen => rest.foldl see seen) (twice [])
  induction types with
  | nil => exact fun seen => rfl
  | cons type others ih =>
    intro seen
    by_cases known : type ∈ seen <;> simp [see, known, ih]

variable (bundle : Bundle)

/-- The types within reach are those of the capabilities, without repetitions, and the truth type, in
the end unless a capability serves it. -/
theorem targetTypes_ofBundle :
    (ofBundle bundle).targetTypes =
      bundle.types.eraseDups ++ if SemanticType.bool ∈ bundle.types then [] else [.bool] := by
  have targets : (ofBundle bundle).adapters.map (·.target) =
      bundle.types.flatMap (fun type => [type, type]) ++ [.bool] := by
    simp [ofBundle, Bundle.types, List.map_flatMap, List.flatMap_map]
  rw [targetTypes, targets, distinctTypes_eq_eraseDups, eraseDups_twice, List.eraseDups_append]
  by_cases served : SemanticType.bool ∈ bundle.types <;>
    simp [List.removeAll, served, List.eraseDups_cons]

variable {bundle} in
/-- The adapters of a bundle lead to the types within its reach. -/
theorem mem_targetTypes_ofBundle {type : SemanticType} :
    type ∈ (ofBundle bundle).targetTypes ↔ type ∈ bundle.reachable := by
  rw [targetTypes_ofBundle, Bundle.reachable, List.mem_append, List.mem_append, List.mem_eraseDups]
  by_cases served : SemanticType.bool ∈ bundle.types
  · simp only [served, if_true, List.not_mem_nil, or_false, List.mem_singleton]
    exact ⟨.inl, fun h => h.elim id fun same => same ▸ served⟩
  · simp only [served, if_false]

/-- A search among the types of adapters finds what it finds among those within reach. -/
theorem find?_targetTypes_ofBundle (p : SemanticType → Bool) :
    (ofBundle bundle).targetTypes.find? p = bundle.reachable.find? p := by
  rw [targetTypes, find?_distinctTypes, ofBundle, Bundle.reachable, Bundle.types]
  simp only [List.map_append, List.find?_append, List.map_cons, List.map_nil, Adapter.target_identity]
  congr 1
  induction bundle.capabilities with
  | nil => rfl
  | cons c rest ih => cases h : p c.type <;> simp [h, ih]

/-- A raw value finds the raw adapter of the first capability of the type that accepts it. -/
theorem find?_ofBundle_raw {v : Value} (raw : v.isNode = false) (type : SemanticType) :
    (ofBundle bundle).find? v type =
      (bundle.capabilities.find? fun c => c.type = type && c.accepts v).map .raw := by
  have rawFits (c : Capability) : (Adapter.raw c).fits v = c.accepts v := by simp [Adapter.fits, raw]
  have identityUnfit (other : SemanticType) : (Adapter.identity other).fits v = false := by
    cases v <;> simp_all [Adapter.fits]
  simp only [find?, ofBundle]
  induction bundle.capabilities with
  | nil => simp [identityUnfit]
  | cons c rest ih =>
    simp only [List.flatMap_cons, List.cons_append, List.nil_append, List.find?_cons, rawFits,
      identityUnfit, Adapter.target_raw, Bool.and_false, ih]
    by_cases ht : c.type = type
    · cases c.accepts v <;> simp [ht]
    · simp [ht]

/-- A node finds the identity adapter of its type, if that is within reach. -/
theorem find?_ofBundle_node {n : Node} {own : SemanticType} (h : n.type? = some own)
    (type : SemanticType) :
    (ofBundle bundle).find? (.node n) type =
      if own = type ∧ type ∈ bundle.reachable then some (.identity type) else none := by
  obtain ⟨capabilities⟩ := bundle
  have rawUnfit (c : Capability) : (Adapter.raw c).fits (.node n) = false := by simp [Adapter.fits]
  have identityFits (other : SemanticType) :
      (Adapter.identity other).fits (.node n) = decide (own = other) := by simp [Adapter.fits, h]
  simp only [find?, ofBundle, Bundle.reachable, Bundle.types]
  induction capabilities with
  | nil =>
    by_cases ht : SemanticType.bool = type
    · subst ht
      simp [identityFits]
    · simp [ht, Ne.symm ht]
  | cons c rest ih =>
    simp only [List.flatMap_cons, List.cons_append, List.nil_append, List.find?_cons, rawUnfit,
      identityFits, Adapter.target_identity, Bool.and_false, ih]
    by_cases ht : c.type = type
    · subst ht
      by_cases ho : own = c.type <;> simp [ho]
    · simp [ht, Ne.symm ht]

end AdapterSet

end FilterAlgebra
