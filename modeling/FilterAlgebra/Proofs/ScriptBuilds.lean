import FilterAlgebra.Proofs.InitialSession
import FilterAlgebra.Proofs.NewScopes
import FilterAlgebra.Session.Script

/-!
# Scripts that build blueprints

What is run is a script, in a session; what is proved things of is a blueprint, over a
bundle. A script carries out a blueprint, `Script.CarriesOut`, if it asks the scope for
the joins of the blueprint and its other parts make the operands. Then building a filter
with the script in a session in order is building the blueprint: the records are the
same and in the same order, and the end is the same, be it a filter or a failure
(`Script.build_simulates`). The first session is in order, so this is how a program
begins (`Script.initial_build_eq_ok_iff`).
-/

set_option autoImplicit false

namespace FilterAlgebra

/-- What the scopes of a design are asked for to compare two operands. -/
def Design.comparison : Design → Action
  | plain => .equate
  | unified => .equateUnified

/-- What the scopes of a design are asked for to join two filters. -/
def Design.conjunction : Design → Action
  | plain => .conjoin
  | unified => .conjoinUnified

/-- The filter of a blueprint over a bundle in a design. -/
def Blueprint.buildBy (blueprint : Blueprint) (bundle : Bundle) : Design → Traced Value
  | .plain => blueprint.build bundle
  | .unified => blueprint.buildUnified bundle

namespace Session

/-- An object stands for an operand, which is of a class if it is a node. -/
def IsOperand (s : Session) (r : Ref) (v : Value) : Prop :=
  s.Stands r v ∧ v.OfClass

/-- From now on a scope of a design joins objects as operators join their values. -/
structure Joins (s : Session) (design : Design) (scope : Ref) (operators : Operators) : Prop where
  equate : ∀ s' l r v w, s.ExtendedBy s' → s'.InOrder → s'.IsOperand l v → s'.IsOperand r w →
    SessionM.Simulates IsOperand s' (SessionM.request SessionM.call scope design.comparison [l, r])
      (operators.equate v w)
  conjoin : ∀ s' l r v w, s.ExtendedBy s' → s'.InOrder → s'.IsOperand l v → s'.IsOperand r w →
    SessionM.Simulates IsOperand s' (SessionM.request SessionM.call scope design.conjunction [l, r])
      (operators.conjoin v w)

variable {s s' : Session} {scope : Ref}

/-- An object goes on standing for an operand. -/
theorem IsOperand.extended {r : Ref} {v : Value} (h : s.IsOperand r v) (extended : s.ExtendedBy s')
    (closed : s.Closed) : s'.IsOperand r v :=
  ⟨h.1.extended extended closed, h.2⟩

/-- A scope goes on joining objects as operators join their values. -/
theorem Joins.extended {design : Design} {operators : Operators} (h : s.Joins design scope operators)
    (extended : s.ExtendedBy s') : s'.Joins design scope operators where
  equate s'' l r v w extended' := h.equate s'' l r v w (extended.trans extended')
  conjoin s'' l r v w extended' := h.conjoin s'' l r v w (extended.trans extended')

/-- What a comparison through adapters comes to is of a class. -/
theorem ofClass_of_equateUnified {set : AdapterSet} {v w u : Value} (equated : (set.equate v w).result = .ok u) :
    u.OfClass := by
  obtain ⟨type, l, r, -, -, -, rfl⟩ := AdapterSet.equate_eq_ok_iff.mp equated
  exact Value.ofClass_node rfl rfl

/-- What a conjunction through adapters comes to is of a class. -/
theorem ofClass_of_conjoinUnified {set : AdapterSet} {v w u : Value} (joined : (set.conjoin v w).result = .ok u) :
    u.OfClass := by
  obtain ⟨l, r, -, -, rfl⟩ := AdapterSet.conjoin_eq_ok_iff.mp joined
  exact Value.ofClass_node rfl rfl

/-- How deep calls may still go when a scope asks its members. -/
def scopeDepth : Nat := 99994

/-- How deep calls may still go when an adapter asks its capability. -/
def capabilityDepth : Nat := 99992

/-- A request to a scope leaves its members that depth. -/
theorem call_eq : SessionM.call = SessionM.callWithin (scopeDepth + 6) := rfl

/-- A bundle joins objects as it joins their values. -/
theorem IsBundle.joins {bundle : Bundle} (order : s.InOrder) (h : s.IsBundle scopeDepth scope bundle) :
    s.Joins .plain scope bundle.operators where
  equate s' l r v w extended order' left right := by
    rw [call_eq]
    exact SessionM.requestEquate_simulates order' (h.extended extended order.toClosed) left.1 right.1 left.2 right.2
  conjoin s' l r v w extended order' left right := by
    rw [call_eq]
    exact SessionM.requestConjoin_simulates order' (h.extended extended order.toClosed) left.1 right.1

/-- A set of adapters joins objects as it joins their values. -/
theorem IsAdapterSet.joins {set : AdapterSet} (h : s.IsAdapterSet scopeDepth scope set) :
    s.Joins .unified scope set.operators where
  equate s' l r v w extended order left right := by
    rw [call_eq]
    exact (SessionM.requestEquateUnified_simulates order (h.extended extended) left.1 right.1).known
      fun u => ofClass_of_equateUnified
  conjoin s' l r v w extended order left right := by
    rw [call_eq]
    exact (SessionM.requestConjoinUnified_simulates order (h.extended extended) left.1 right.1).known
      fun u => ofClass_of_conjoinUnified

end Session

namespace Script

open SessionM Session

variable {s s' : Session} {locals : Table Ref} {design : Design} {script : Script} {blueprint : Blueprint}

/-- A script within a builder makes an object for a value, whatever the scope and the receiver are. -/
def Gives (s : Session) (locals : Table Ref) (script : Script) (v : Value) : Prop :=
  ∀ s' scope receiver, s.ExtendedBy s' → s'.InOrder →
    Makes (fun s'' q => s''.IsOperand q v) s' (script.eval (builderNames locals scope receiver))

/-- The constant of a simple value makes an object for it. -/
theorem gives_constant {v : Value} (simple : v.isSimple = true) : Gives s locals (.constant v) v := by
  intro s' scope receiver extended order
  rw [Script.eval]
  refine (newAtom_makes order fun _ known => Value.content?_of_isSimple simple known).imp
    fun s'' q _ order' isPlain => ⟨stands_simple order' simple isPlain, fun h same => ?_⟩
  obtain ⟨-, noNode⟩ := class_of_isSimple simple
  cases v <;> cases noNode <;> cases same

/-- A name for an object gives the operand that the object stands for. The two names that a builder has
for the scope and the receiver mean those. -/
theorem gives_reference {name : String} {r : Ref} {v : Value} (order : s.InOrder)
    (free : name ≠ scopeName ∧ name ≠ receiverName)
    (bound : (Table.get? locals name).or (s.names.get? name) = some r) (isOperand : s.IsOperand r v) :
    Gives s locals (.reference name) v := by
  intro s' scope receiver extended order'
  have found : (Table.get? (builderNames locals scope receiver) name).or (s'.names.get? name) = some r := by
    rw [extended.names, ← bound]
    simp [builderNames, Table.get?, free.1.symm, free.2.symm]
  rw [Script.eval, SessionM.reference]
  refine Makes.read (runIn_get s') ?_
  rw [found]
  exact Makes.pure order' (isOperand.extended extended order.toClosed)

/-- A name for the object of a property gives the property. -/
theorem gives_property {name word : String} {r q : Ref} {c : StandingClass} {kind : PropertyKind} {t : SemanticType}
    (order : s.InOrder) (free : name ≠ scopeName ∧ name ≠ receiverName)
    (bound : (Table.get? locals name).or (s.names.get? name) = some r) (object : s.IsObject r c [(Attribute.name, q)])
    (isText : s.IsPlain q (.atom (.str word))) (known : c.propertyKind? = some kind)
    (typed : kind.type? = some t) : Gives s locals (.reference name) (.node (.property kind (.plain word))) := by
  obtain ⟨-, -, isBuiltIn, -⟩ := StandingClass.propertyClass known typed
  have ofClass : (Value.node (.property kind (.plain word))).OfClass :=
    Value.ofClass_node (Value.semanticType_node_eq_ok.mpr typed) (Hierarchy.classId?_of_builtIn? isBuiltIn).2
  exact gives_reference order free bound ⟨object.stands_property order isText known typed, ofClass⟩

/-- A script carries out a blueprint: it asks the scope to compare and to join, and all else makes operands. -/
inductive CarriesOut (s : Session) (locals : Table Ref) (design : Design) : Script → Blueprint → Prop
  | operand {script : Script} {v : Value} (gives : Gives s locals script v) :
      CarriesOut s locals design script (.operand v)
  | equality {l r : Script} {left right : Blueprint} (first : CarriesOut s locals design l left)
      (second : CarriesOut s locals design r right) :
      CarriesOut s locals design (.apply (.request design.comparison) [.reference scopeName, l, r])
        (.equality left right)
  | conjunction {l r : Script} {left right : Blueprint} (first : CarriesOut s locals design l left)
      (second : CarriesOut s locals design r right) :
      CarriesOut s locals design (.apply (.request design.conjunction) [.reference scopeName, l, r])
        (.conjunction left right)

/-- The scope is what it is called within a builder. -/
theorem runIn_scopeName (locals : Table Ref) (scope receiver : Ref) :
    ((Script.reference scopeName).eval (builderNames locals scope receiver)).runIn s = (.ok scope, s) := by
  rw [Script.eval, SessionM.reference, runIn_get_bind]
  rfl

/-- A request to the scope is one with what the scripts of the operands make. -/
theorem request_simulates {l r : Script} {left right : Traced Value} {join : Value → Value → Traced Value}
    {action : Action} {scope receiver : Ref}
    (first : Simulates IsOperand s (l.eval (builderNames locals scope receiver)) left)
    (second : ∀ s', s.ExtendedBy s' → s'.InOrder →
      Simulates IsOperand s' (r.eval (builderNames locals scope receiver)) right)
    (joins : ∀ s' a b v w, s.ExtendedBy s' → s'.InOrder → s'.IsOperand a v → s'.IsOperand b w →
      Simulates IsOperand s' (SessionM.request SessionM.call scope action [a, b]) (join v w)) :
    Simulates IsOperand s ((Script.apply (.request action) [.reference scopeName, l, r]).eval
      (builderNames locals scope receiver)) (do join (← left) (← right)) := by
  simp only [Script.eval, Script.evalAll, bind_assoc, pure_bind]
  refine Simulates.read (runIn_scopeName locals scope receiver) ?_
  refine first.bind fun s₁ a v extended₁ order₁ isLeft => ?_
  refine (second s₁ extended₁ order₁).bind fun s₂ b w extended₂ order₂ isRight => ?_
  exact joins s₂ a b v w (extended₁.trans extended₂) order₂ (isLeft.extended extended₂ order₁.toClosed) isRight

/-- Within a builder a script does what the blueprint comes to that it carries out. -/
theorem CarriesOut.simulates {operators : Operators} {scope receiver : Ref}
    (carries : CarriesOut s locals design script blueprint) (extended : s.ExtendedBy s') (order : s'.InOrder)
    (joins : s'.Joins design scope operators) :
    Simulates IsOperand s' (script.eval (builderNames locals scope receiver)) (blueprint.eval operators) := by
  induction carries generalizing s' with
  | operand gives => exact (gives s' scope receiver extended order).simulates
  | equality _ _ first second =>
    exact request_simulates (first extended order joins)
      (fun _ extended' order' => second (extended.trans extended') order' (joins.extended extended')) joins.equate
  | conjunction _ _ first second =>
    exact request_simulates (first extended order joins)
      (fun _ extended' order' => second (extended.trans extended') order' (joins.extended extended')) joins.conjoin

/-- A filter that is built with a script is that of the blueprint that the script carries out. -/
theorem CarriesOut.buildIn_simulates {capabilities? style? : Option Ref} {bundle : Bundle} {receiver : Ref}
    (carries : CarriesOut s locals design script blueprint)
    (based : s.BuildsOver capabilityDepth capabilities? style? bundle) :
    Simulates Session.Stands s (buildIn SessionM.call design receiver capabilities? style? fun scope receiver =>
      script.eval (builderNames locals scope receiver)) (blueprint.buildBy bundle design) := by
  cases design with
  | plain =>
    refine buildIn_plain_simulates (m := scopeDepth) (by decide) based fun s₁ scope extended order isBundle => ?_
    exact (carries.simulates extended order (isBundle.joins order)).imp fun _ _ _ _ h => h.1
  | unified =>
    rw [call_eq]
    refine buildIn_unified_simulates (by decide) based fun s₁ scope extended order isSet => ?_
    exact (carries.simulates extended order (isSet.joins)).imp fun _ _ _ _ h => h.1

/-- What scripts carry out they carry out in a session that only grew. -/
theorem CarriesOut.extended (carries : CarriesOut s locals design script blueprint) (extended : s.ExtendedBy s') :
    CarriesOut s' locals design script blueprint := by
  induction carries with
  | operand gives =>
    exact .operand fun s'' scope receiver extended' => gives s'' scope receiver (extended.trans extended')
  | equality _ _ first second => exact .equality first second
  | conjunction _ _ first second => exact .conjunction first second

/-- A script that builds a filter over the defaults does what building the blueprint does. -/
theorem build_simulates {receiver : Script}
    (received : Makes (fun _ _ => True) s (receiver.eval locals))
    (carries : CarriesOut s locals design script blueprint) :
    Simulates Session.Stands s ((Script.build design receiver script none none).eval locals)
      (blueprint.buildBy (.default {}) design) := by
  simp only [Script.eval, Script.evalOption, pure_bind]
  refine Simulates.made received fun s₁ r extended order _ => ?_
  exact (carries.extended extended).buildIn_simulates (buildsOver_defaults order rfl (by decide))

/-- In the first session the script has a result exactly if the blueprint has a filter, which is the
value of the object that comes back. -/
theorem initial_build_eq_ok_iff {v : Value} (carries : CarriesOut .initial [] design script blueprint) :
    (∃ q s', ((Script.build design (.constant .none) script none none).eval []).runIn .initial = (.ok q, s') ∧
      s'.value q = v) ↔ (blueprint.buildBy (.default {}) design).result = .ok v := by
  have received : Makes (fun _ _ => True) Session.initial ((Script.constant .none).eval []) := by
    rw [Script.eval]
    exact (absent_makes Session.initial_inOrder).imp fun _ _ _ _ _ => trivial
  obtain ⟨outcome, s', ends, -, related⟩ := build_simulates received carries
  rw [ends]
  cases result : (blueprint.buildBy (.default {}) design).result with
  | ok w =>
    rw [result] at related
    obtain ⟨q, rfl, stands⟩ := related.of_ok
    constructor
    · rintro ⟨q', s'', same, rfl⟩
      cases same
      rw [stands.value]
    · intro same
      exact ⟨q, s', rfl, stands.value.trans (Except.ok.inj same)⟩
  | error failure =>
    rw [result] at related
    obtain ⟨setback, rfl, -, -⟩ := related.of_error
    constructor
    · rintro ⟨q, s'', same, -⟩
      cases same
    · intro same
      cases same

end Script

end FilterAlgebra
