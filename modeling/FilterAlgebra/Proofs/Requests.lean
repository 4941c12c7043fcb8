import FilterAlgebra.Proofs.ObjectOperands
import FilterAlgebra.Session.Invocation

/-!
# Requests that end up at the library

An object is asked for a function by name, so what it has of its own, or what its class
was given, may answer in the place of the library. In a session in order it does not:
a request to an object of a standing class comes down to what the function of the
library does with the operands (`request_comesTo`), and a request for a member of a
native class to what the member gives (`ask_comesTo`). Either takes two levels of
calls, or one; all that happens besides is that a method is made.
-/

set_option autoImplicit false

namespace FilterAlgebra

namespace Function

variable {α : Type}

/-- As many operands as a function takes, or as it cannot do without, are taken in their order. -/
theorem arrange_of_length (f : Function) (shown : String) {given : List α}
    (enough : f.operands.length - f.optional ≤ given.length) (notMore : given.length ≤ f.operands.length) :
    f.arrange shown given [] =
      .ok (given.map some ++ List.replicate (f.operands.length - given.length) none) := by
  have all : given.take f.operands.length = given := List.take_of_length_le notMore
  have lengths : (given.map some ++ List.replicate (f.operands.length - given.length) (none : Option α)).length =
      f.operands.length := by
    simp only [List.length_append, List.length_map, List.length_replicate]
    omega
  have places : (f.operands.zip (given.map some ++
      List.replicate (f.operands.length - given.length) (none : Option α))).map (·.2) =
        given.map some ++ List.replicate (f.operands.length - given.length) none :=
    List.map_snd_zip (by rw [lengths])
  have complete : ((f.operands.zip (given.map some ++
      List.replicate (f.operands.length - given.length) (none : Option α))).take
        (f.operands.length - f.optional)).filter (·.2.isNone) = [] := by
    refine List.filter_eq_nil_iff.mpr fun entry member => ?_
    have second : entry.2 ∈ given.map some := by
      have taken := List.mem_map_of_mem (f := (·.2)) member
      rw [List.map_take, places, List.take_append_of_le_length (by simpa using enough)] at taken
      exact List.mem_of_mem_take taken
    obtain ⟨a, -, same⟩ := List.mem_map.mp second
    simp [← same]
  have fits : ¬ f.operands.length < given.length := by omega
  simp only [arrange, all, List.length_map, placeNamed, bind, Except.bind, fits, if_false, complete,
    List.isEmpty_nil, if_true, places]
  rfl

end Function

namespace SessionM

variable {α β : Type} {s s' : Session}

/-- Of two computations the first makes objects and then does what the second does. -/
def ComesTo (s : Session) (p : SessionM α) (s' : Session) (q : SessionM α) : Prop :=
  s.GrowsTo s' [] ∧ p.runIn s = q.runIn s'

/-- A computation simulates what one does that it comes to. -/
theorem ComesTo.simulates {R : Session → α → β → Prop} {p q : SessionM α} {run : Traced β}
    (h : ComesTo s p s' q) (rest : Simulates R s' q run) : Simulates R s p run := by
  obtain ⟨outcome, s'', ends, grows, related⟩ := rest
  exact ⟨outcome, s'', h.2.trans ends, growsTo_trans h.1 grows, related⟩

/-- A computation makes what one does that it comes to. -/
theorem ComesTo.makes {P : Session → α → Prop} {p q : SessionM α} (h : ComesTo s p s' q)
    (rest : Makes P s' q) : Makes P s p := by
  obtain ⟨a, s'', ends, grows, holds⟩ := rest
  exact ⟨a, s'', h.2.trans ends, growsTo_trans h.1 grows, holds⟩

section Dispatch

variable {r q m : Ref} {n : Nat}

/-- A method calls its function with the object in front. -/
theorem runIn_callWithin_method (content : s.content m = .method q r) (args : Arguments) :
    (callWithin (n + 1) m args).runIn s =
      (callWithin n q { args with positional := r :: args.positional }).runIn s := by
  rw [callWithin, runIn_get_bind, content]

/-- A function of the library does what it does. -/
theorem runIn_callWithin_function {f : Function} (content : s.content q = .function f) (args : Arguments) :
    (callWithin (n + 1) q args).runIn s = (callFunction (callWithin n) q f args).runIn s := by
  rw [callWithin, runIn_get_bind, content]

/-- A member of a native class gives what it gives. -/
theorem runIn_callWithin_member {member : Member} (content : s.content m = .boundMember member r)
    (args : Arguments) :
    (callWithin (n + 1) m args).runIn s = (callMember (callWithin n) member r args).runIn s := by
  rw [callWithin, runIn_get_bind, content]

/-- The operands of a function are put in order before it does anything. -/
theorem runIn_callFunction {f : Function} {operands : List Ref}
    (enough : f.operands.length - f.optional ≤ (r :: operands).length)
    (notMore : (r :: operands).length ≤ f.operands.length) (call : Caller) :
    (callFunction call q f { positional := r :: operands }).runIn s =
      (perform call f r (operands.map some ++
        List.replicate (f.operands.length - (r :: operands).length) none)
        { positional := r :: operands }).runIn s := by
  rw [callFunction, runIn_get_bind]
  simp only [f.arrange_of_length _ enough notMore, List.map_cons, List.cons_append]
  rfl

end Dispatch

/-- What a request for an object of a standing class comes to: the function of the library is done with
the operands, by calls that are two levels further down. -/
theorem request_comesTo (order : s.InOrder) {r : Ref} {c : StandingClass} {attributes : Table Ref}
    (action : Action) {f : Function} (operands : List Ref) {n : Nat} (object : s.IsObject r c attributes)
    (asked : c ∈ StandingClass.asked) (found : c.function? action = some f)
    (lacks : Table.get? attributes action.name = none)
    (ordinary : action.name ≠ Attribute.ofClass ∧ action.name ≠ Attribute.all)
    (ofObjects : f.action.isOfClass = false)
    (enough : f.operands.length - f.optional ≤ (r :: operands).length)
    (notMore : (r :: operands).length ≤ f.operands.length) :
    ∃ s', ComesTo s (request (callWithin (n + 2)) r action operands) s'
      (perform (callWithin n) f r (operands.map some ++
        List.replicate (f.operands.length - (r :: operands).length) none)
        { positional := r :: operands }) := by
  obtain ⟨owner, q, slot, content⟩ := order.functions c asked action f found
  have lt : q < s.cells.size := order.slots _ _ _ (Session.mem_of_slot? slot)
  have shown := runIn_attributeOf_kept (object.content_eq ▸ rfl) ordinary ((object.attribute?_eq _).trans lacks)
    (by rw [object.classOf_eq, slot])
  let s' := s.withObject { content := .method q r }
  have grows : s.GrowsTo s' [] := ⟨s.extendedBy_withObject _, order.withObject (by
    simp only [Cell.refs, Content.refs, List.map_nil, List.append_nil, Option.toList_none, List.mem_cons,
      List.not_mem_nil, or_false]
    rintro p (rfl | rfl)
    · exact lt
    · exact object.lt), by simp [s', Session.withObject]⟩
  have method : (attributeOf r action.name).runIn s = (.ok s.cells.size, s') := by
    rw [shown, presented, runIn_get_bind, content]
    simp only [ofObjects]
    rfl
  have contentMethod : s'.content s.cells.size = .method q r := Session.content_withObject_new _
  have contentFunction : s'.content q = .function f := (grows.extended.content_eq lt).trans content
  refine ⟨s', grows, ?_⟩
  rw [request, ask, runIn_bind_of_ok method, runIn_callWithin_method contentMethod,
    runIn_callWithin_function contentFunction, runIn_callFunction enough notMore]

/-- What asking an object for a member of its native class comes to: the member gives what it gives, by
calls that are one level further down. -/
theorem ask_comesTo (order : s.InOrder) {r : Ref} {name : String} {m : Member} {n : Nat} (lt : r < s.cells.size)
    (direct : (s.content r).isDirect = true) (lacks : s.attribute? r name = none)
    (keeps : s.Keeps (s.classOf r) name (.member m)) (notShown : m.isShown = false)
    (ordinary : name ≠ Attribute.ofClass ∧ name ≠ Attribute.all) (operands : List Ref) :
    ∃ s', ComesTo s (ask (callWithin (n + 1)) r name operands) s'
      (callMember (callWithin n) m r { positional := operands }) := by
  obtain ⟨owner, q, slot, content⟩ := keeps
  let s' := s.withObject { content := .boundMember m r }
  have grows : s.GrowsTo s' [] := ⟨s.extendedBy_withObject _, order.withObject (by
    simpa [Cell.refs, Content.refs] using lt), by simp [s', Session.withObject]⟩
  have member : (attributeOf r name).runIn s = (.ok s.cells.size, s') := by
    rw [runIn_attributeOf_kept direct ordinary lacks slot, presented, runIn_get_bind, content]
    simp only [notShown]
    rfl
  refine ⟨s', grows, ?_⟩
  rw [ask, runIn_bind_of_ok member, runIn_callWithin_member (Session.content_withObject_new _)]

/-- A member that takes what it is given gives what it gives. -/
theorem runIn_callMember {m : Member} (call : Caller) (self : Ref) (operands : List Ref)
    (takes : ∀ fullName, m.intake.complaint? m.name fullName operands.length = none) :
    (callMember call m self { positional := operands }).runIn s =
      (performMember call m self { positional := operands }).runIn s := by
  have taken : ∀ fullName, (checkIntake m fullName { positional := operands }).runIn s = (.ok (), s) := by
    intro fullName
    simp only [checkIntake, List.isEmpty_nil, Bool.not_true, Bool.false_and, Bool.false_eq_true, if_false, takes]
    rfl
  rw [callMember, runIn_get_bind]
  exact runIn_bind_of_ok (taken _) _

end SessionM

end FilterAlgebra
