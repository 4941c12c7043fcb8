import FilterAlgebra.Blueprint
import FilterAlgebra.Proofs.Soundness

/-!
# Runs of calls

Filters are made by calls whose operands are raw values, fresh properties and literals, or
what earlier calls returned. A call that fails returns nothing, and the run goes on. To
build a filter is a call as well: its builder is a run of its own, with access to all that
was returned before. Every call keeps everything that is known sound
(`Call.run_keeps`), so whatever is returned in a run is; `Call.returned_sound` is the
main result.
-/

set_option autoImplicit false

namespace FilterAlgebra

/-- What a builder works in: a bundle, or any set of adapters. -/
inductive Scope where
  | plain (bundle : Bundle)
  | unified (set : AdapterSet)

namespace Scope

/-- How a scope joins operands. -/
def operators : Scope → Operators
  | plain bundle => bundle.operators
  | unified set => set.operators

/-- The filter of a builder that comes back with a value. -/
def build (scope : Scope) (built : Value) : Traced Value :=
  match scope with
  | plain bundle => bundle.build fun _ => pure built
  | unified set => set.build fun _ => pure built

end Scope

/-- The ways in which two operands are joined. The sign goes by the classes of its operands, of which
those that users define make no unsound nodes. -/
inductive Join where
  | equate
  | conjoin
  | ampersand (foreign : ForeignSigns) (safe : foreign.Safe)
  | equateIn (scope : Scope)
  | conjoinIn (scope : Scope)

/-- What a way of joining makes of two operands. -/
def Join.apply : Join → Value → Value → Traced Value
  | equate => Node.equate
  | conjoin => Node.conjoin
  | ampersand foreign _ => Node.ampersand foreign
  | equateIn scope => scope.operators.equate
  | conjoinIn scope => scope.operators.conjoin

/-- Where the operand of a call comes from. Properties have a type and a plain name. -/
inductive Source where
  | raw (v : Value) (raw : v.isNode = false)
  | property (kind : PropertyKind) (typed : kind.type?.isSome = true) (name : String)
  | literal (type : SemanticType) (text : String)
  | earlier (i : Nat)

/-- A call. The builder of a filter makes calls and comes back with an operand; a builder that gives
up is no more than the calls it has made. -/
inductive Call where
  | join (join : Join) (left right : Source)
  | lift (bundle : Bundle) (operand : Source) (type : SemanticType)
  | build (scope : Scope) (body : List Call) (built : Source)

/-- The calls that returned something, in their order, with what they returned. -/
abbrev History := List (Call × Value)

/-- The operand that comes from a source. Without an earlier result there is the absent value. -/
def Source.value (history : History) : Source → Value
  | raw v _ => v
  | property kind _ name => .node (.property kind (.plain name))
  | literal type text => .node (.literal type text)
  | earlier i => (history[i]?.map (·.2)).getD .none

/-- Adds what a call returned, unless it failed. -/
def History.record (history : History) (call : Call) (outcome : Traced Value) : History :=
  match outcome.result with
  | .ok v => history ++ [(call, v)]
  | .error _ => history

namespace Call

/-- Whether a call never returns anything but a filter. -/
def makesFilter : Call → Bool
  | join (.ampersand ..) .. | lift .. => false
  | join .. | build .. => true

mutual

/-- What has been returned after a call. -/
def run : Call → History → History
  | join j left right, history =>
    history.record (join j left right) (j.apply (left.value history) (right.value history))
  | lift bundle operand type, history =>
    history.record (lift bundle operand type) (bundle.lift (operand.value history) type)
  | build scope body built, history =>
    let inner := runAll body history
    inner.record (build scope body built) (scope.build (built.value inner))

/-- What has been returned after some calls. -/
def runAll : List Call → History → History
  | [], history => history
  | call :: rest, history => runAll rest (call.run history)

end

end Call

/-- What a call returned is sound, and it is a filter unless the call may return something else. -/
structure Returned (call : Call) (v : Value) : Prop where
  sound : v.Sound
  filter : call.makesFilter = true → v.SoundFilter

/-- Everything that has been returned is as it should be. -/
def History.Kept (history : History) : Prop :=
  ∀ entry ∈ history, Returned entry.1 entry.2

/-- A call that returned a sound filter has returned what it should. -/
theorem Returned.of_filter {call : Call} {v : Value} (h : v.SoundFilter) : Returned call v :=
  ⟨h.sound, fun _ => h⟩

namespace History.Kept

variable {history : History} {call : Call} {outcome : Traced Value}

/-- Whatever source an operand comes from, it is sound: fresh nodes are, and all that was returned
before. -/
theorem value (kept : history.Kept) (source : Source) : (source.value history).Sound := by
  cases source with
  | raw v raw => exact Value.sound_of_raw raw
  | property kind typed name => exact Value.sound_node_iff.mpr (.property typed name)
  | literal type text => exact Value.sound_node_iff.mpr (.literal type text)
  | earlier i =>
    cases hentry : history[i]? with
    | none =>
      have hvalue : (Source.earlier i).value history = .none := by simp [Source.value, hentry]
      rw [hvalue]
      exact Value.sound_of_raw rfl
    | some entry =>
      have hvalue : (Source.earlier i).value history = entry.2 := by simp [Source.value, hentry]
      rw [hvalue]
      exact (kept entry (List.mem_of_getElem? hentry)).sound

/-- A call that returns only what it should keeps everything as it should be. -/
theorem record (kept : history.Kept) (h : ∀ v, outcome.result = .ok v → Returned call v) :
    (history.record call outcome).Kept := by
  unfold History.record
  split
  · rename_i v hv
    intro entry hentry
    cases List.mem_append.mp hentry with
    | inl hearlier => exact kept entry hearlier
    | inr hnew =>
      obtain rfl := List.mem_singleton.mp hnew
      exact h v hv
  · exact kept

end History.Kept

/-- What a builder comes back with passes only as a filter, and as sound as it was before. -/
theorem Scope.sound_of_build {scope : Scope} {built v : Value} (hbuilt : built.Sound)
    (h : (scope.build built).result = .ok v) : v.SoundFilter := by
  have passed : (pure built : Traced Value).result = .ok v ∧
      ∃ n, v = .node n ∧ n.type? = some .bool := by
    cases scope with
    | plain bundle => exact Operands.buildFilter_eq_ok_iff.mp h
    | unified set => exact Operands.buildFilter_eq_ok_iff.mp h
  obtain ⟨hsame, n, rfl, hn⟩ := passed
  obtain rfl : built = .node n := by simpa using hsame
  exact ⟨n, rfl, hbuilt n rfl, hn⟩

/-- A join keeps soundness, and only the sign may return something raw. -/
theorem Join.returned {j : Join} {left right : Source} {l r v : Value} (hl : l.Sound) (hr : r.Sound)
    (h : (j.apply l r).result = .ok v) : Returned (.join j left right) v := by
  cases j with
  | equate => exact .of_filter (Node.sound_of_equate hl hr h)
  | conjoin => exact .of_filter (Node.sound_of_conjoin hl hr h)
  | ampersand foreign safe =>
    exact ⟨Node.sound_of_ampersand safe hl hr h, by simp [Call.makesFilter]⟩
  | equateIn scope =>
    cases scope with
    | plain bundle => exact .of_filter (Bundle.sound_of_equate hl hr h)
    | unified set => exact .of_filter (AdapterSet.sound_of_equate hl hr h)
  | conjoinIn scope =>
    cases scope with
    | plain bundle => exact .of_filter (Node.sound_of_conjoin hl hr h)
    | unified set => exact .of_filter (AdapterSet.sound_of_conjoin hl hr h)

namespace Call

mutual

/-- One call keeps what is known of everything returned. -/
theorem run_keeps (call : Call) {history : History} (kept : history.Kept) :
    (call.run history).Kept := by
  cases call with
  | join j left right =>
    rw [run]
    exact kept.record fun v h => Join.returned (kept.value left) (kept.value right) h
  | lift bundle operand type =>
    rw [run]
    exact kept.record fun v h =>
      ⟨Bundle.sound_of_lift (kept.value operand) h, by simp [makesFilter]⟩
  | build scope body built =>
    have keptInner := runAll_keeps body kept
    rw [run]
    exact keptInner.record fun v h => .of_filter (Scope.sound_of_build (keptInner.value built) h)

/-- So do all calls of a run. -/
theorem runAll_keeps (calls : List Call) {history : History} (kept : history.Kept) :
    (runAll calls history).Kept := by
  cases calls with
  | nil => exact kept
  | cons call rest =>
    rw [runAll]
    exact runAll_keeps rest (run_keeps call kept)

end

/-- **Whatever is returned in a run is well-formed and can be rendered**, and comparisons,
conjunctions and built filters are of the truth type. -/
theorem returned_sound (calls : List Call) :
    ∀ entry ∈ runAll calls [],
      (∀ n, entry.2 = .node n → n.Sound ∧ ∃ text, n.render = .ok text) ∧
      (entry.1.makesFilter = true → ∃ n, entry.2 = .node n ∧ n.type? = some .bool) := by
  intro entry hentry
  have kept : (runAll calls []).Kept := runAll_keeps calls (by simp [History.Kept])
  obtain ⟨sound, filter⟩ := kept entry hentry
  constructor
  · intro n hn
    exact ⟨sound n hn, (sound n hn).renders⟩
  · intro hmakes
    obtain ⟨n, hn, -, htype⟩ := filter hmakes
    exact ⟨n, hn, htype⟩

/-- A text is compared with a property, a conjunction with an integer is refused, and a builder joins
the comparison with itself. -/
theorem returned_sound_after_refusal :
    let quoted := Node.literal .str (QuoteStyle.quote {} "it's")
    let comparison := Node.comparison (.property .text (.plain "name")) quoted
    let filter := comparison.conjunction comparison
    filter.Sound ∧ ∃ text, filter.render = .ok text := by
  intro quoted comparison filter
  let compare := join (.equateIn (.plain (.default {}))) (.raw (.str "it's") rfl)
    (.property .text rfl "name")
  let refused := join .conjoin (.earlier 0) (.raw (.int 1) rfl)
  let both := join (.ampersand .silent .silent) (.earlier 0) (.earlier 0)
  let built := build (.unified (.ofBundle (.default {}))) [both] (.earlier 1)
  have hrun : runAll [compare, refused, built] [] =
      [(compare, .node comparison), (both, .node filter), (built, .node filter)] := rfl
  have hreturned : (built, .node filter) ∈ runAll [compare, refused, built] [] := by simp [hrun]
  exact (returned_sound [compare, refused, built] (built, .node filter) hreturned).1 filter rfl

end Call

end FilterAlgebra
