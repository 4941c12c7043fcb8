import FilterAlgebra.Proofs.Lifting
import FilterAlgebra.Proofs.Rejection

/-!
# What runs record

Probing is silent: to ask whether a capability accepts a value, to search for an adapter and to join
nodes records nothing. Only two steps record something, the conversion that rejects its value and the
comparison that finds no common type, and both end the run with the failure they have reported. A run
of which this is true is candid (`Traced.Candid`), and so is what is composed of candid runs
(`Traced.Candid.bind`), for nothing catches a failure. `Blueprint.only_rejection_is_recorded` is the
main result.
-/

set_option autoImplicit false

namespace FilterAlgebra

namespace Traced

variable {α β : Type} {run : Traced α} {next : α → Traced β} {reports other : Record → Failure → Prop}

/-- A run without records. -/
def Silent (run : Traced α) : Prop :=
  run.records = []

/-- A run that records nothing, or fails right after a single record that reports the failure. -/
def Candid (reports : Record → Failure → Prop) (run : Traced α) : Prop :=
  run.Silent ∨ ∃ record failure, run = ⟨[record], .error failure⟩ ∧ reports record failure

/-- A result alone records nothing. -/
theorem Silent.pure (a : α) : (pure a : Traced α).Silent := rfl

/-- A failure alone records nothing. -/
theorem Silent.fail (failure : Failure) : (fail failure : Traced α).Silent := rfl

/-- An outcome that may be a fault records nothing. -/
theorem Silent.ofFault (outcome : Except Fault α) : (Traced.ofFault outcome).Silent := rfl

/-- A composed run records nothing if its parts do not. -/
theorem Silent.bind (first : run.Silent) (rest : ∀ a, run.result = .ok a → (next a).Silent) :
    (run >>= next).Silent := by
  rw [Silent, records_bind, first]
  cases result : run.result with
  | error failure => rfl
  | ok a => exact rest a result

/-- A run whose result is changed records nothing more. -/
theorem Silent.map (f : α → β) (silent : run.Silent) : (f <$> run).Silent := by
  rw [← bind_pure_comp]
  exact silent.bind fun a _ => .pure (f a)

/-- A run without records has nothing to report. -/
theorem Silent.candid (silent : run.Silent) : run.Candid reports :=
  .inl silent

/-- What a candid run reports may be described more weakly. -/
theorem Candid.imp (candid : run.Candid reports)
    (weaker : ∀ record failure, run = ⟨[record], .error failure⟩ → reports record failure →
      other record failure) : run.Candid other := by
  rcases candid with silent | ⟨record, failure, same, report⟩
  · exact .inl silent
  · exact .inr ⟨record, failure, same, weaker record failure same report⟩

/-- A failure that has been reported ends the whole run, so nothing is recorded after the report. -/
theorem Candid.bind (first : run.Candid reports)
    (rest : ∀ a, run.result = .ok a → (next a).Candid reports) : (run >>= next).Candid reports := by
  rcases first with silent | ⟨record, failure, rfl, report⟩
  · obtain ⟨records, result⟩ := run
    obtain rfl : records = [] := silent
    cases result with
    | error failure => exact .inl rfl
    | ok a => exact rest a rfl
  · exact .inr ⟨record, failure, rfl, report⟩

/-- A run whose result is changed reports the same. -/
theorem Candid.map (f : α → β) (candid : run.Candid reports) : (f <$> run).Candid reports := by
  rw [← bind_pure_comp]
  exact candid.bind fun a _ => (Silent.pure (f a)).candid

end Traced

/-! ### Checked joins -/

section Joins

variable (v left right : Value)

/-- To judge an operand of a comparison records nothing. -/
theorem Operands.silent_requireNode : (values.requireNode v).Silent := by
  unfold requireNode
  simp only [values_isNode, pure_bind]
  split
  · exact .pure ()
  · exact .fail _

/-- To judge an operand of a conjunction records nothing. -/
theorem Operands.silent_requireFilter (reason : String → Refusal) :
    (values.requireFilter reason v).Silent := by
  unfold requireFilter
  simp only [values_isNode, pure_bind]
  split
  · refine .bind (.ofFault _) fun type _ => ?_
    split
    · exact .pure ()
    · exact .bind (.ofFault _) fun _ _ => .fail _
  · exact .fail _

/-- A checked comparison records nothing, whether it is made or refused. -/
theorem Node.silent_equate : (equate left right).Silent := by
  unfold equate Operands.equate
  refine .bind (Operands.silent_requireNode left) fun _ _ => ?_
  refine .bind (Operands.silent_requireNode right) fun _ _ => ?_
  refine .bind (.ofFault _) fun leftType _ => .bind (.ofFault _) fun rightType _ => ?_
  split
  · exact .pure _
  · exact .bind (.ofFault _) fun _ _ => .bind (.ofFault _) fun _ _ => .fail _

/-- A checked conjunction records nothing, whether it is made or refused. -/
theorem Node.silent_conjoin : (conjoin left right).Silent := by
  unfold conjoin Operands.conjoin
  exact .bind (Operands.silent_requireFilter left _) fun _ _ =>
    .bind (Operands.silent_requireFilter right _) fun _ _ => .pure _

/-- To judge what a builder came back with records nothing. -/
theorem Node.silent_ensureFilter : (ensureFilter v).Silent := by
  unfold ensureFilter Operands.ensureFilter
  exact .bind (Operands.silent_requireFilter v _) fun _ _ => .pure v

end Joins

/-! ### Conversions -/

namespace Capability

variable {c : Capability} {v : Value}

/-- A capability finds issues in a value, records the form of the value and refuses it in the name of
its type. -/
def Rejects (c : Capability) (v : Value) (record : Record) (failure : Failure) : Prop :=
  ∃ issues shown target, c.validate v = .error issues ∧ v.inspect = .ok shown ∧
    c.type.name = .ok target ∧
    record = .rejected c.className v shown issues.length ∧
    failure = .refused (.noConversion v.className target) v (some c.type) (some issues)

/-- A value that passes the test is converted without a record, even where it cannot be written. -/
theorem silent_asExpression (accepted : c.accepts v = true) : (c.asExpression v).Silent := by
  unfold asExpression
  cases validated : c.validate v with
  | ok plain => exact .ofFault _
  | error issues => simp [accepts, validated, Except.isOk, Except.toBool] at accepted

/-- A conversion records nothing, or the rejection that it fails for. -/
theorem candid_asExpression (c : Capability) (v : Value) :
    (c.asExpression v).Candid (c.Rejects v) := by
  cases validated : c.validate v with
  | ok plain =>
    have accepted : c.accepts v = true := by rw [accepts, validated]; rfl
    exact (silent_asExpression accepted).candid
  | error issues =>
    have rejected : c.asExpression v = c.reject v issues := by rw [asExpression, validated]
    rw [rejected]
    cases shows : v.inspect with
    | error f =>
      rw [reject_of_unshown shows]
      exact (Traced.Silent.fail _).candid
    | ok shown =>
      obtain ⟨target, named⟩ := SemanticType.name_of_isClass c.classType
      refine .inr ⟨.rejected c.className v shown issues.length,
        .refused (.noConversion v.className target) v (some c.type) (some issues), ?_,
        issues, shown, target, validated, shows, named, rfl, rfl⟩
      rw [reject, shows, named]
      rfl

end Capability

namespace Bundle

variable {bundle : Bundle} {v node raw left right : Value} {type : SemanticType}

/-- One of two operands, a raw one, is rejected by a capability of a bundle. -/
def Rejects (bundle : Bundle) (left right : Value) (record : Record) (failure : Failure) : Prop :=
  ∃ v c, (v = left ∨ v = right) ∧ v.isNode = false ∧ c ∈ bundle.capabilities ∧
    c.Rejects v record failure

/-- It is no matter which of the two operands is rejected. -/
theorem Rejects.swap {record : Record} {failure : Failure}
    (h : bundle.Rejects left right record failure) : bundle.Rejects right left record failure := by
  obtain ⟨v, c, among, rejects⟩ := h
  exact ⟨v, c, among.symm, rejects⟩

/-- The capability that is picked for a value is one of the bundle. -/
theorem mem_of_pick? {c : Capability} (picked : bundle.pick? v type = some c) :
    c ∈ bundle.capabilities := by
  unfold pick? at picked
  split at picked
  · exact List.mem_of_find?_eq_some picked
  · exact List.mem_of_find?_eq_some picked

/-- A value for which no capability is picked is refused without a record. -/
theorem silent_refuseUnpicked (v : Value) (type : SemanticType) : (refuseUnpicked v type).Silent := by
  unfold refuseUnpicked
  split
  · exact .fail _
  · exact .bind (.ofFault _) fun _ _ => .fail _

/-- A node is lifted without a record. -/
theorem silent_lift_node (bundle : Bundle) (n : Node) (type : SemanticType) :
    (bundle.lift (.node n) type).Silent := by
  rw [lift_node, Lifting.requireType]
  split
  · exact .pure _
  · refine .bind (.ofFault _) fun actual _ => ?_
    split
    · exact .pure _
    · exact .bind (.ofFault _) fun _ _ => .bind (.ofFault _) fun _ _ => .fail _

/-- A lift records something only where the capability that is picked rejects the operand. -/
theorem candid_lift (bundle : Bundle) (v : Value) (type : SemanticType) :
    (bundle.lift v type).Candid fun record failure =>
      v.isNode = false ∧ ∃ c ∈ bundle.capabilities, c.Rejects v record failure := by
  cases isNode : v.isNode with
  | true =>
    obtain ⟨n, rfl⟩ := Value.eq_node_of_isNode isNode
    exact (silent_lift_node bundle n type).candid
  | false =>
    rw [lift_raw bundle isNode]
    cases picked : bundle.pick? v type with
    | none => exact (silent_refuseUnpicked v type).candid
    | some c =>
      exact ((c.candid_asExpression v).map Value.node).imp fun _ _ _ rejects =>
        ⟨rfl, c, mem_of_pick? picked, rejects⟩

/-- To lift the raw operand that faces a node records nothing but its rejection. -/
theorem candid_face (bundle : Bundle) (node raw : Value) :
    (bundle.face node raw).Candid (bundle.Rejects node raw) := by
  unfold face
  refine .bind (Traced.Silent.ofFault _).candid fun type _ => ?_
  refine .bind ((bundle.candid_lift raw type).imp ?_) fun _ _ => (Traced.Silent.pure _).candid
  rintro record failure - ⟨isRaw, c, active, rejects⟩
  exact ⟨raw, c, .inr rfl, isRaw, active, rejects⟩

/-- To prepare operands for a comparison records nothing but the rejection of one of them. -/
theorem candid_prepare (bundle : Bundle) (left right : Value) :
    (bundle.prepare left right).Candid (bundle.Rejects left right) := by
  unfold prepare
  split
  · split
    · exact (Traced.Silent.pure _).candid
    · exact bundle.candid_face left right
  · split
    · exact (bundle.candid_face right left).imp fun _ _ _ rejects => rejects.swap
    · refine .bind ((bundle.candid_lift left .absent).imp ?_) fun lifted result => ?_
      · rintro record failure - ⟨isRaw, c, active, rejects⟩
        exact ⟨left, c, .inl rfl, isRaw, active, rejects⟩
      · -- what the left operand was lifted to is a node, so it is the right one that is rejected
        obtain ⟨n, rfl, -⟩ := node_of_lift result
        refine (bundle.candid_face (.node n) right).imp ?_
        rintro record failure - ⟨v, c, rfl | rfl, isRaw, rejects⟩
        · cases isRaw
        · exact ⟨v, c, .inr rfl, isRaw, rejects⟩

/-- A comparison in a bundle records nothing but the rejection of one of its operands. -/
theorem candid_equate (bundle : Bundle) (left right : Value) :
    (bundle.equate left right).Candid (bundle.Rejects left right) := by
  rw [equate_eq_prepare]
  exact .bind (bundle.candid_prepare left right) fun operands _ =>
    (Node.silent_equate operands.1 operands.2).candid

end Bundle

/-! ### Adapters -/

namespace AdapterSet

/-- A set of adapters has no common type for two operands, of which a raw one on the left of a node is
moved to the right. Both are recorded, and the right one is refused. -/
def Rejects (set : AdapterSet) (left right : Value) (record : Record) (failure : Failure) : Prop :=
  ∃ l r leftShown rightShown, Value.turned left right = (l, r) ∧
    (set.search.combineFirst l equalitySign r set.targetTypes).result = .ok none ∧
    l.inspect = .ok leftShown ∧ r.inspect = .ok rightShown ∧
    record = .noCommonType l r leftShown rightShown ∧
    failure = .refused (.noCommonType l.className r.className) r none none

section Probing

variable (set : AdapterSet) (v left right : Value) (sign : String) (type : SemanticType)

/-- To search for an adapter records nothing, however many are asked. -/
theorem silent_resolve : (set.resolve v type).Silent := by
  obtain ⟨adapters⟩ := set
  unfold resolve
  induction adapters with
  | nil => exact .pure none
  | cons a rest ih =>
    rw [Search.firstAccepting, pure_bind]
    split
    · refine .bind (.ofFault _) fun accepted _ => ?_
      split
      · exact .pure _
      · exact ih
    · exact ih

/-- An adapter that takes an operand does not reject it. -/
theorem silent_toExpression {a : Adapter} (fits : a.fits v = true) : (a.toExpression v).Silent := by
  cases a with
  | raw c =>
    have shape : v.isNode = false ∧ c.accepts v = true := by simpa [Adapter.fits] using fits
    exact (Capability.silent_asExpression shape.2).map Value.node
  | identity own => exact .pure v

/-- To join operands at a type records nothing, for an adapter is only used on what it accepts. -/
theorem silent_combine : (set.search.combine left sign right type).Silent := by
  refine .bind (set.silent_resolve left type) fun l resolvedLeft => ?_
  refine .bind (set.silent_resolve right type) fun r resolvedRight => ?_
  cases l with
  | none => exact .pure none
  | some a =>
    cases r with
    | none => exact .pure none
    | some b =>
      refine .bind (silent_toExpression left (fits_of_resolve resolvedLeft).2.2) fun _ _ => ?_
      refine .bind (silent_toExpression right (fits_of_resolve resolvedRight).2.2) fun _ _ => ?_
      exact .map some (.pure _)

/-- Nor does the search for the first type at which they can be joined. -/
theorem silent_combineFirst (types : List SemanticType) :
    (set.search.combineFirst left sign right types).Silent := by
  induction types with
  | nil => exact .pure none
  | cons type rest ih =>
    refine .bind (set.silent_combine left right sign type) fun found _ => ?_
    cases found with
    | none => exact ih
    | some joined => exact .pure _

/-- A conjunction through adapters records nothing, for it only asks and joins. -/
theorem silent_conjoin : (set.conjoin left right).Silent := by
  rw [conjoin, Search.conjoin, search_truth, pure_bind]
  refine .bind (set.silent_combine left right conjunctionSign .bool) fun found _ => ?_
  cases found with
  | some joined => exact .pure joined
  | none =>
    refine .bind ?_ fun bad _ => .fail _
    rw [Search.blame, search_truth, pure_bind, search_reaches]
    refine .bind (.map _ (set.silent_resolve left .bool)) fun reached _ => ?_
    split
    · exact .pure right
    · exact .pure left

/-- The end of a comparison without a common type records both operands and refuses the right one. -/
theorem candid_refuseComparison (l r : Value) :
    (Search.refuseComparison Operands.values l r).Candid fun record failure =>
      ∃ leftShown rightShown, l.inspect = .ok leftShown ∧ r.inspect = .ok rightShown ∧
        record = .noCommonType l r leftShown rightShown ∧
        failure = .refused (.noCommonType l.className r.className) r none none := by
  unfold Search.refuseComparison
  cases leftShows : l.inspect with
  | error f => exact .inl (by simp only [Operands.values_look, pure_bind, leftShows]; rfl)
  | ok leftShown =>
    cases rightShows : r.inspect with
    | error f => exact .inl (by simp only [Operands.values_look, pure_bind, leftShows, rightShows]; rfl)
    | ok rightShown =>
      simp only [Operands.values_look, pure_bind, leftShows, rightShows]
      exact .inr ⟨_, _, rfl, leftShown, rightShown, rfl, rfl, rfl, rfl⟩

/-- A comparison through adapters records nothing but that there is no common type. -/
theorem candid_equate : (set.equate left right).Candid (set.Rejects left right) := by
  simp only [equate, Search.equate, Search.nodeFirst_values, search_targets, pure_bind]
  refine .bind (set.silent_combineFirst _ _ equalitySign _).candid fun found searched => ?_
  cases found with
  | some joined => exact (Traced.Silent.pure joined).candid
  | none =>
    refine (candid_refuseComparison _ _).imp ?_
    rintro record failure - ⟨leftShown, rightShown, report⟩
    exact ⟨_, _, leftShown, rightShown, rfl, searched, report⟩

end Probing

end AdapterSet

/-! ### Blueprints -/

/-- Comparisons report what they fail for, if they record anything, and conjunctions are silent. -/
structure Operators.Candid (operators : Operators)
    (reports : Value → Value → Record → Failure → Prop) : Prop where
  equate : ∀ left right, (operators.equate left right).Candid (reports left right)
  conjoin : ∀ left right, (operators.conjoin left right).Silent

/-- The operators of a bundle are candid about rejected operands. -/
theorem Bundle.candid_operators (bundle : Bundle) : bundle.operators.Candid bundle.Rejects where
  equate := bundle.candid_equate
  conjoin := Node.silent_conjoin

/-- The operators of a set of adapters are candid about operands without a common type. -/
theorem AdapterSet.candid_operators (set : AdapterSet) : set.operators.Candid set.Rejects where
  equate := set.candid_equate
  conjoin := set.silent_conjoin

namespace Blueprint

variable {operators : Operators} {reports : Value → Value → Record → Failure → Prop}

/-- Two operands that are compared while a blueprint is evaluated. -/
inductive Compares (operators : Operators) : Blueprint → Value → Value → Prop
  | here {left right : Blueprint} {l r : Value} (hl : (left.eval operators).result = .ok l)
    (hr : (right.eval operators).result = .ok r) : Compares operators (.equality left right) l r
  | equalityLeft {left right : Blueprint} {v w : Value} (within : Compares operators left v w) :
    Compares operators (.equality left right) v w
  | equalityRight {left right : Blueprint} {l v w : Value} (hl : (left.eval operators).result = .ok l)
    (within : Compares operators right v w) : Compares operators (.equality left right) v w
  | conjunctionLeft {left right : Blueprint} {v w : Value} (within : Compares operators left v w) :
    Compares operators (.conjunction left right) v w
  | conjunctionRight {left right : Blueprint} {l v w : Value}
    (hl : (left.eval operators).result = .ok l) (within : Compares operators right v w) :
    Compares operators (.conjunction left right) v w

/-- A record and a failure are those of a comparison that a blueprint makes. -/
def Reports (t : Blueprint) (operators : Operators)
    (reports : Value → Value → Record → Failure → Prop) (record : Record) (failure : Failure) : Prop :=
  ∃ left right, t.Compares operators left right ∧
    operators.equate left right = ⟨[record], .error failure⟩ ∧ reports left right record failure

/-- What a part of a blueprint reports the whole reports. -/
theorem Reports.within {part whole : Blueprint} {record : Record} {failure : Failure}
    (h : part.Reports operators reports record failure)
    (compares : ∀ {v w}, part.Compares operators v w → whole.Compares operators v w) :
    whole.Reports operators reports record failure := by
  obtain ⟨v, w, within, report⟩ := h
  exact ⟨v, w, compares within, report⟩

/-- The run of a blueprint ends with the first comparison that reports something. -/
theorem candid_eval (candid : operators.Candid reports) (t : Blueprint) :
    (t.eval operators).Candid (t.Reports operators reports) := by
  induction t with
  | operand v => exact (Traced.Silent.pure v).candid
  | equality left right ihl ihr =>
    refine .bind (ihl.imp fun _ _ _ report => report.within .equalityLeft) fun l hl => ?_
    refine .bind (ihr.imp fun _ _ _ report => report.within (.equalityRight hl)) fun r hr => ?_
    exact (candid.equate l r).imp fun _ _ same report => ⟨l, r, .here hl hr, same, report⟩
  | conjunction left right ihl ihr =>
    refine .bind (ihl.imp fun _ _ _ report => report.within .conjunctionLeft) fun l hl => ?_
    refine .bind (ihr.imp fun _ _ _ report => report.within (.conjunctionRight hl)) fun r _ => ?_
    exact (candid.conjoin l r).candid

end Blueprint

/-- A candid builder runs between the opening record and a check that records nothing, so its report is
the last record. -/
theorem Traced.Candid.buildFilter {builder : Traced Value} {reports : Record → Failure → Prop}
    (candid : builder.Candid reports) (opening : Record) :
    (∀ v, (Operands.values.buildFilter opening builder).result = .ok v →
      (Operands.values.buildFilter opening builder).records = [opening]) ∧
    ∀ failure, (Operands.values.buildFilter opening builder).result = .error failure →
      (Operands.values.buildFilter opening builder).records = [opening] ∨
      ∃ record, (Operands.values.buildFilter opening builder).records = [opening, record] ∧
        reports record failure := by
  have checked : (builder >>= Node.ensureFilter).Candid reports :=
    candid.bind fun v _ => (Node.silent_ensureFilter v).candid
  have opened : Operands.values.buildFilter opening builder =
      ⟨opening :: (builder >>= Node.ensureFilter).records, (builder >>= Node.ensureFilter).result⟩ := rfl
  rw [opened]
  rcases checked with silent | ⟨record, failure, same, report⟩
  · rw [silent]
    exact ⟨fun _ _ => rfl, fun _ _ => .inl rfl⟩
  · rw [same]
    refine ⟨fun v succeeded => (nomatch succeeded), fun other failed => .inr ⟨record, rfl, ?_⟩⟩
    obtain rfl := Except.error.inj failed
    exact report

/-- **Nothing is recorded but the rejection that the run fails for.** A filter that is built leaves the
opening record and no other, however many capabilities were asked. A build that fails leaves after it at
most one record, of the comparison that failed.

Over a bundle this is the record of a capability that rejects a raw operand, which the refusal carries.
Over the adapters of a bundle it is the record of two operands
without a common type, and the refusal carries the right one of them, after a raw left operand of a node
was moved to the right. -/
theorem Blueprint.only_rejection_is_recorded (t : Blueprint) (bundle : Bundle) :
    ((∀ v, (t.build bundle).result = .ok v → (t.build bundle).records = [bundle.opening]) ∧
      ∀ failure, (t.build bundle).result = .error failure →
        (t.build bundle).records = [bundle.opening] ∨
        ∃ record, (t.build bundle).records = [bundle.opening, record] ∧
          t.Reports bundle.operators bundle.Rejects record failure ∧
          ∃ className v shown issues why target,
            record = .rejected className v shown issues.length ∧
            failure = .refused why v target (some issues)) ∧
    let set := AdapterSet.ofBundle bundle
    (∀ v, (t.buildUnified bundle).result = .ok v → (t.buildUnified bundle).records = [set.opening]) ∧
      ∀ failure, (t.buildUnified bundle).result = .error failure →
        (t.buildUnified bundle).records = [set.opening] ∨
        ∃ record, (t.buildUnified bundle).records = [set.opening, record] ∧
          t.Reports set.operators set.Rejects record failure ∧
          ∃ l r leftShown rightShown why,
            record = .noCommonType l r leftShown rightShown ∧ failure = .refused why r none none := by
  constructor
  · obtain ⟨built, failed⟩ :=
      (candid_eval bundle.candid_operators t).buildFilter bundle.opening
    refine ⟨built, fun failure result => (failed failure result).imp id ?_⟩
    rintro ⟨record, records, report⟩
    refine ⟨record, records, report, ?_⟩
    obtain ⟨-, -, -, -, v, c, -, -, -, issues, shown, target, -, -, -, rfl, rfl⟩ := report
    exact ⟨c.className, v, shown, issues, _, _, rfl, rfl⟩
  · intro set
    obtain ⟨built, failed⟩ := (candid_eval set.candid_operators t).buildFilter set.opening
    refine ⟨built, fun failure result => (failed failure result).imp id ?_⟩
    rintro ⟨record, records, report⟩
    refine ⟨record, records, report, ?_⟩
    obtain ⟨-, -, -, -, l, r, leftShown, rightShown, -, -, -, -, rfl, rfl⟩ := report
    exact ⟨l, r, leftShown, rightShown, _, rfl, rfl⟩

/-- A property of texts is compared with a text and with a list. The list is the operand that is
rejected, and over adapters the one that is moved to the right. -/
theorem Blueprint.only_rejection_is_recorded_of_text :
    let name := operand (.node (.property .text (.plain "name")))
    let list := Value.list [.none]
    let bundle := Bundle.default {}
    let fits := equality (operand (.str "ok")) name
    let unfit := equality (operand list) name
    (fits.build bundle).records = [.building 2] ∧ (fits.buildUnified bundle).records = [.buildingUnified 5] ∧
    (∃ className shown issues why target,
      (unfit.build bundle).records = [.building 2, .rejected className list shown issues.length] ∧
      (unfit.build bundle).result = .error (.refused why list target (some issues))) ∧
    ∃ l leftShown rightShown why,
      (unfit.buildUnified bundle).records =
        [.buildingUnified 5, .noCommonType l list leftShown rightShown] ∧
      (unfit.buildUnified bundle).result = .error (.refused why list none none) := by
  intro name list bundle fits unfit
  obtain ⟨⟨built, -⟩, builtUnified, -⟩ := only_rejection_is_recorded fits bundle
  obtain ⟨⟨-, failed⟩, -, failedUnified⟩ := only_rejection_is_recorded unfit bundle
  refine ⟨built _ rfl, builtUnified _ rfl, ?_, ?_⟩
  · have result : (unfit.build bundle).result = .error _ := rfl
    rcases failed _ result with silent | ⟨record, records, -, refusal⟩
    · exact absurd (congrArg List.length silent) (by decide)
    · obtain ⟨className, v, shown, issues, why, target, rfl, refused⟩ := refusal
      rw [refused] at result
      obtain ⟨-, rfl, -, -⟩ := Failure.refused.inj (Except.error.inj result.symm)
      exact ⟨className, shown, issues, why, target, records, result⟩
  · have result : (unfit.buildUnified bundle).result = .error _ := rfl
    rcases failedUnified _ result with silent | ⟨record, records, -, refusal⟩
    · exact absurd (congrArg List.length silent) (by decide)
    · obtain ⟨l, r, leftShown, rightShown, why, rfl, refused⟩ := refusal
      rw [refused] at result
      obtain ⟨-, rfl, -, -⟩ := Failure.refused.inj (Except.error.inj result.symm)
      exact ⟨l, leftShown, rightShown, why, records, result⟩

end FilterAlgebra
