import FilterAlgebra.Proofs.Sessions
import FilterAlgebra.Session.Calling

/-!
# Computations on objects and runs on values

The rules of the algebra are stated for operands of any kind. A session follows them with
objects, and what is proved of filters is proved of values. Here is what connects the
two. A computation within a session simulates a run on values, `SessionM.Simulates`, if
it only lets the session grow, adds the records of the run to those of the session, and
ends as the run does: with related results, or with the same failure, where the object
to blame is the operand that the failure carries.

Simulations compose as computations do (`Simulates.bind`). What a computation reads off
the session is no step of the run, and neither is making an object (`Makes`).
-/

set_option autoImplicit false

namespace FilterAlgebra

/-- A session in order has only grown, and so many records were added. -/
structure Session.GrowsTo (s s' : Session) (records : List Record) : Prop where
  extended : s.ExtendedBy s'
  order : s'.InOrder
  added : s'.records = s.records ++ records

/-- An object that is to blame for a failure is there, and is the operand that is refused. -/
def Setback.Blames (setback : Setback) (s : Session) : Prop :=
  ∀ r, setback.culprit? = some r → r < s.cells.size ∧
    ∃ why target issues, setback.failure = .refused why (s.value r) target issues

namespace SessionM

variable {α β γ δ : Type}

/-- How a computation ends in a session, and the session after it. -/
def runIn (p : SessionM α) (s : Session) : Except Setback α × Session :=
  p.run.run s

section Runs

@[simp] theorem runIn_pure (a : α) (s : Session) : (pure a : SessionM α).runIn s = (.ok a, s) := rfl

@[simp] theorem runIn_throw (setback : Setback) (s : Session) :
    (throw setback : SessionM α).runIn s = (.error setback, s) := rfl

@[simp] theorem runIn_get (s : Session) : (get : SessionM Session).runIn s = (.ok s, s) := rfl

/-- A computation goes on from where its first part ended. -/
theorem runIn_bind (p : SessionM α) (next : α → SessionM β) (s : Session) :
    (p >>= next).runIn s =
      match p.runIn s with
      | (.ok a, s') => (next a).runIn s'
      | (.error setback, s') => (.error setback, s') := by
  show (match p.run s with | (a, s') => ExceptT.bindCont next a s') = _
  unfold runIn StateT.run
  rcases p.run s with ⟨setback | a, s'⟩ <;> rfl

/-- What was read off the session is known to the rest of a computation. -/
@[simp] theorem runIn_get_bind (next : Session → SessionM β) (s : Session) :
    (get >>= next).runIn s = (next s).runIn s := by
  rw [runIn_bind, runIn_get]

/-- A computation that has a result goes on with it. -/
theorem runIn_bind_of_ok {p : SessionM α} {s s' : Session} {a : α} (h : p.runIn s = (.ok a, s'))
    (next : α → SessionM β) : (p >>= next).runIn s = (next a).runIn s' := by
  rw [runIn_bind, h]

/-- What is read off the session for each item of a list is read off it for the list. -/
theorem runIn_mapM {read : α → SessionM β} {s : Session} {as : List α} {bs : List β}
    (h : List.Forall₂ (fun a b => (read a).runIn s = (.ok b, s)) as bs) :
    (as.mapM read).runIn s = (.ok bs, s) := by
  induction h with
  | nil => rfl
  | cons first _ ih =>
    rw [List.mapM_cons, runIn_bind_of_ok first, runIn_bind_of_ok ih]
    rfl

/-- A handler goes on from where a computation failed. -/
theorem runIn_tryCatch (p : SessionM α) (handler : Setback → SessionM α) (s : Session) :
    (tryCatch p handler).runIn s =
      match p.runIn s with
      | (.ok a, s') => (.ok a, s')
      | (.error setback, s') => (handler setback).runIn s' := by
  simp only [runIn, ExceptT.run, tryCatch, tryCatchThe, MonadExceptOf.tryCatch, ExceptT.tryCatch, ExceptT.mk,
    StateT.run_bind]
  rcases StateT.run p s with ⟨setback | a, s'⟩ <;> rfl

/-- A new object has the next number. -/
theorem runIn_newObject (content : Content) (attributes : Table Ref) (s : Session) :
    (newObject content attributes).runIn s = (.ok s.cells.size, s.withObject { content, attributes }) := rfl

/-- The only object of its kind is the one that is known, or else a new one. -/
theorem runIn_sharedObject (key : Shared) (content : Content) (s : Session) :
    (sharedObject key content).runIn s =
      match s.shared? key with
      | some r => (.ok r, s)
      | none => (.ok s.cells.size, (s.withObject { content }).withShared key s.cells.size) := by
  show (match s.shared? key with | some r => (pure r : SessionM Ref) | none => _) s = _
  cases s.shared? key <;> rfl

/-- A run adds its records and ends as it does. -/
theorem runIn_ofTraced (run : Traced α) (s : Session) :
    (ofTraced run).runIn s =
      (run.result.mapError fun failure => ⟨failure, none⟩, s.withRecords run.records) := by
  rcases run with ⟨records, _ | _⟩ <;> rfl

/-- A refusal blames the object. -/
theorem runIn_refuse (r : Ref) (why : Refusal) (target : Option SemanticType) (s : Session) :
    (refuse r why target : SessionM α).runIn s =
      (.error ⟨.refused why (s.value r) target none, some r⟩, s) := rfl

end Runs

/-- A computation ends as a run does. -/
inductive Ends (R : α → β → Prop) (s : Session) : Except Setback α → Except Failure β → Prop
  | result {a : α} {b : β} (related : R a b) : Ends R s (.ok a) (.ok b)
  | failure {setback : Setback} (blames : setback.Blames s) : Ends R s (.error setback) (.error setback.failure)

/-- Only a result ends as a result does, and it is a related one. -/
theorem Ends.of_ok {R : α → β → Prop} {s : Session} {outcome : Except Setback α} {b : β}
    (h : Ends R s outcome (.ok b)) : ∃ a, outcome = .ok a ∧ R a b := by
  cases h with
  | result related => exact ⟨_, rfl, related⟩

/-- Only a failure ends as a failure does. It is the same one, and the object to blame is what it carries. -/
theorem Ends.of_error {R : α → β → Prop} {s : Session} {outcome : Except Setback α} {failure : Failure}
    (h : Ends R s outcome (.error failure)) :
    ∃ setback, outcome = .error setback ∧ setback.failure = failure ∧ setback.Blames s := by
  generalize same : (Except.error failure : Except Failure β) = expected at h
  cases h with
  | result => cases same
  | failure blames => exact ⟨_, rfl, (Except.error.inj same).symm, blames⟩

/-- A computation does in a session what a run does. -/
def Simulates (R : Session → α → β → Prop) (s : Session) (p : SessionM α) (run : Traced β) : Prop :=
  ∃ outcome s', p.runIn s = (outcome, s') ∧ s.GrowsTo s' run.records ∧ Ends (R s') s' outcome run.result

/-- A computation comes to a result and does nothing in a session but make objects. -/
def Makes (P : Session → α → Prop) (s : Session) (p : SessionM α) : Prop :=
  ∃ a s', p.runIn s = (.ok a, s') ∧ s.GrowsTo s' [] ∧ P s' a

section Rules

variable {R R' : Session → α → β → Prop} {Q : Session → γ → δ → Prop} {P : Session → α → Prop}
  {s s' s'' : Session} {p : SessionM α} {run : Traced β}

/-- A session in order that nothing was done to has grown by nothing. -/
theorem growsTo_refl (order : s.InOrder) : s.GrowsTo s [] :=
  ⟨.refl s, order, by simp⟩

/-- Records are added in their order. -/
theorem growsTo_trans {first second : List Record} (h : s.GrowsTo s' first) (h' : s'.GrowsTo s'' second) :
    s.GrowsTo s'' (first ++ second) :=
  ⟨h.extended.trans h'.extended, h'.order, by rw [h'.added, h.added, List.append_assoc]⟩

namespace Simulates

/-- Related results are the ends of a computation and a run that do nothing. -/
theorem pure (order : s.InOrder) {a : α} {b : β} (h : R s a b) :
    Simulates R s (Pure.pure a) (Pure.pure b) :=
  ⟨_, s, rfl, growsTo_refl order, .result h⟩

/-- A failure of a run is one of the computation. -/
theorem fail (order : s.InOrder) {setback : Setback} (blames : setback.Blames s) :
    Simulates R s (throw setback) (Traced.fail setback.failure) :=
  ⟨_, s, rfl, growsTo_refl order, .failure blames⟩

/-- A failure without an object to blame is one of the computation. -/
theorem failure (order : s.InOrder) (failure : Failure) :
    Simulates R s (SessionM.fail failure) (Traced.fail failure) :=
  have blames : Setback.Blames ⟨failure, none⟩ s := nofun
  fail order blames

/-- A run that is embedded does what it does. -/
theorem ofTraced (order : s.InOrder) (run : Traced α) :
    Simulates (fun _ a b => a = b) s (SessionM.ofTraced run) run := by
  refine ⟨_, _, runIn_ofTraced run s, ⟨s.extendedBy_withRecords _, order.withRecords _, rfl⟩, ?_⟩
  cases run.result with
  | ok a => exact .result rfl
  | error failure =>
    have blames : Setback.Blames ⟨failure, none⟩ (s.withRecords run.records) := nofun
    exact .failure blames

/-- An outcome that is embedded is what it is. -/
theorem ofFault (order : s.InOrder) (outcome : Except Fault α) :
    Simulates (fun _ a b => a = b) s (SessionM.ofFault outcome) (Traced.ofFault outcome) := by
  cases outcome with
  | ok a => exact pure order rfl
  | error f => exact failure order (.fault f)

/-- What is related more closely is related. -/
theorem imp (h : Simulates R s p run) (weaker : ∀ s' a b, s.ExtendedBy s' → R s' a b → R' s' a b) :
    Simulates R' s p run := by
  obtain ⟨outcome, s', ends, grows, related⟩ := h
  refine ⟨outcome, s', ends, grows, ?_⟩
  cases result : run.result with
  | ok b =>
    rw [result] at related
    obtain ⟨a, rfl, holds⟩ := related.of_ok
    exact .result (weaker s' a b grows.extended holds)
  | error failure =>
    rw [result] at related
    obtain ⟨setback, rfl, rfl, blames⟩ := related.of_error
    exact .failure blames

/-- What is known of the result of a run is known of what is simulated. -/
theorem known {K : β → Prop} (h : Simulates R s p run) (holds : ∀ b, run.result = .ok b → K b) :
    Simulates (fun s' a b => R s' a b ∧ K b) s p run := by
  obtain ⟨outcome, s', ends, grows, related⟩ := h
  refine ⟨outcome, s', ends, grows, ?_⟩
  cases result : run.result with
  | ok b =>
    rw [result] at related
    obtain ⟨a, rfl, holds'⟩ := related.of_ok
    exact .result ⟨holds', holds b result⟩
  | error failure =>
    rw [result] at related
    obtain ⟨setback, rfl, rfl, blames⟩ := related.of_error
    exact .failure blames

/-- Computations compose as the runs do that they simulate. -/
theorem bind {next : α → SessionM γ} {next' : β → Traced δ} (first : Simulates R s p run)
    (rest : ∀ s' a b, s.ExtendedBy s' → s'.InOrder → R s' a b → Simulates Q s' (next a) (next' b)) :
    Simulates Q s (p >>= next) (run >>= next') := by
  obtain ⟨outcome, s', ends, grows, related⟩ := first
  unfold Simulates
  rw [runIn_bind, ends, Traced.records_bind, Traced.result_bind]
  cases result : run.result with
  | ok b =>
    rw [result] at related
    obtain ⟨a, rfl, holds⟩ := related.of_ok
    obtain ⟨outcome, s'', ends, grows', related⟩ := rest s' a b grows.extended grows.order holds
    exact ⟨outcome, s'', ends, growsTo_trans grows grows', related⟩
  | error failure =>
    rw [result] at related
    obtain ⟨setback, rfl, rfl, blames⟩ := related.of_error
    exact ⟨_, s', rfl, grows, .failure blames⟩

/-- What a computation reads off the session is no step of a run. -/
theorem read {q : SessionM γ} {next : γ → SessionM α} {c : γ} (silent : q.runIn s = (.ok c, s))
    (rest : Simulates R s (next c) run) : Simulates R s (q >>= next) run := by
  unfold Simulates
  rw [runIn_bind_of_ok silent]
  exact rest

/-- Looking at the session is no step of a run. -/
theorem get {next : Session → SessionM α} (rest : Simulates R s (next s) run) :
    Simulates R s (MonadState.get >>= next) run :=
  read rfl rest

/-- Making objects is no step of a run. -/
theorem made {q : SessionM γ} {next : γ → SessionM α} {P : Session → γ → Prop} (makes : Makes P s q)
    (rest : ∀ s' c, s.ExtendedBy s' → s'.InOrder → P s' c → Simulates R s' (next c) run) :
    Simulates R s (q >>= next) run := by
  obtain ⟨c, s', ends, grows, holds⟩ := makes
  obtain ⟨outcome, s'', ends', grows', related⟩ := rest s' c grows.extended grows.order holds
  refine ⟨outcome, s'', ?_, growsTo_trans grows grows', related⟩
  rw [runIn_bind_of_ok ends, ends']

end Simulates

namespace Makes

/-- A computation that is its result makes nothing. -/
theorem pure (order : s.InOrder) {a : α} (h : P s a) : Makes P s (Pure.pure a) :=
  ⟨a, s, rfl, growsTo_refl order, h⟩

/-- What holds more strictly holds. -/
theorem imp {P' : Session → α → Prop} (h : Makes P s p)
    (weaker : ∀ s' a, s.ExtendedBy s' → s'.InOrder → P s' a → P' s' a) : Makes P' s p := by
  obtain ⟨a, s', ends, grows, holds⟩ := h
  exact ⟨a, s', ends, grows, weaker s' a grows.extended grows.order holds⟩

/-- Computations that make objects compose. -/
theorem bind {P' : Session → γ → Prop} {next : α → SessionM γ} (first : Makes P s p)
    (rest : ∀ s' a, s.ExtendedBy s' → s'.InOrder → P s' a → Makes P' s' (next a)) :
    Makes P' s (p >>= next) := by
  obtain ⟨a, s', ends, grows, holds⟩ := first
  obtain ⟨c, s'', ends', grows', holds'⟩ := rest s' a grows.extended grows.order holds
  exact ⟨c, s'', by rw [runIn_bind_of_ok ends, ends'], growsTo_trans grows grows', holds'⟩

/-- What a computation reads off the session makes nothing. -/
theorem read {P' : Session → γ → Prop} {next : α → SessionM γ} {a : α} (silent : p.runIn s = (.ok a, s))
    (rest : Makes P' s (next a)) : Makes P' s (p >>= next) := by
  unfold Makes
  rw [runIn_bind_of_ok silent]
  exact rest

/-- A computation that makes what a run gives simulates the run. -/
theorem simulates {b : β} (h : Makes (fun s' a => R s' a b) s p) : Simulates R s p (Pure.pure b) := by
  obtain ⟨a, s', ends, grows, related⟩ := h
  exact ⟨_, s', ends, grows, .result related⟩

/-- A new object is the last one. -/
theorem newObject (order : s.InOrder) {content : Content} {attributes : Table Ref}
    (refs : ∀ q ∈ Cell.refs { content, attributes }, q < s.cells.size) :
    Makes (fun s' r => s' = s.withObject { content, attributes } ∧ r = s.cells.size) s
      (SessionM.newObject content attributes) :=
  ⟨_, _, runIn_newObject content attributes s,
    ⟨s.extendedBy_withObject _, order.withObject refs, by simp [Session.withObject]⟩, rfl, rfl⟩

/-- A new object to which nothing is added is a plain one. -/
theorem newPlain (order : s.InOrder) {content : Content} (refs : ∀ q ∈ content.refs, q < s.cells.size) :
    Makes (fun s' r => s'.IsPlain r content) s (SessionM.newObject content []) := by
  refine (newObject order (by simpa [Cell.refs] using refs)).imp ?_
  rintro s' r - - ⟨rfl, rfl⟩
  exact Session.cells_withObject_new _

/-- The only object of its kind is one with the content that it is known for. -/
theorem sharedObject (order : s.InOrder) {key : Shared} {content : Content}
    (told : key.content? = some content) (refs : ∀ q ∈ content.refs, q < s.cells.size) :
    Makes (fun s' r => s'.IsPlain r content) s (SessionM.sharedObject key content) := by
  unfold Makes
  rw [runIn_sharedObject]
  cases h : s.shared? key with
  | some r => exact ⟨r, s, rfl, growsTo_refl order, order.known key r content h told⟩
  | none =>
    have cell := Session.cells_withObject_new (s := s) { content }
    have order' : (s.withObject { content }).InOrder := order.withObject (by simpa [Cell.refs] using refs)
    have unknown : (s.withObject { content }).shared? key = none := h
    have plain : ∀ id, key = .type id →
        (s.withObject { content }).cells[s.cells.size]? = some { content := .type id } := by
      rintro id rfl
      simp [Shared.content?] at told
    have same : ∀ content', key.content? = some content' →
        (s.withObject { content }).cells[s.cells.size]? = some { content := content' } := by
      intro content' told'
      obtain rfl : content = content' := by simpa [told] using told'
      exact cell
    have noStyle : key = .defaultStyle → (s.withObject { content }).IsStyle s.cells.size {} := by
      rintro rfl
      simp [Shared.content?] at told
    exact ⟨_, _, rfl, ⟨(s.extendedBy_withObject _).trans (Session.extendedBy_withShared unknown plain),
      order'.withShared unknown (by simp) plain same noStyle,
      by simp [Session.withObject, Session.withShared]⟩, cell⟩

/-- The object for a class is the class. -/
theorem classObject (order : s.InOrder) (id : ClassId) :
    Makes (fun s' r => s'.IsClass r id) s (SessionM.classObject id) := by
  unfold Makes SessionM.classObject
  rw [runIn_sharedObject]
  cases h : s.shared? (.type id) with
  | some r => exact ⟨r, s, rfl, growsTo_refl order, order.isClass h⟩
  | none =>
    have cell := Session.cells_withObject_new (s := s) { content := .type id }
    have order' : (s.withObject { content := .type id }).InOrder := order.withObject (by simp [Cell.refs, Content.refs])
    have unknown : (s.withObject { content := .type id }).shared? (.type id) = none := h
    have plain : ∀ id', Shared.type id = .type id' →
        (s.withObject { content := .type id }).cells[s.cells.size]? = some { content := .type id' } := by
      rintro id' same
      obtain rfl : id = id' := by simpa using same
      exact cell
    have order'' := order'.withShared unknown (by simp) plain (by simp [Shared.content?]) (by simp)
    exact ⟨_, _, rfl, ⟨(s.extendedBy_withObject _).trans (Session.extendedBy_withShared unknown plain), order'',
      by simp [Session.withObject, Session.withShared]⟩, order''.isClass (by simp [Session.shared?_withShared])⟩

end Makes

end Rules

end SessionM

end FilterAlgebra
