import FilterAlgebra.Session.Description

/-!
# Running the steps of a session

A session runs step after step. A step that succeeds may bind a name to what it
gives; a step that fails binds none and does not stop the steps after it. Each
step is answered by what it gave or why it failed, and by its records. What a step
gave may turn out to have no description; then the step counts as failed, but its
name stays bound.
-/

set_option autoImplicit false

namespace FilterAlgebra

/-- A script, and the name that is bound to what it gives. -/
structure SessionStep where
  script : Script
  name? : Option String

/-- How a step ended. -/
inductive Outcome where
  | gave (d : Description)
  /-- A refusal comes with the description of the refused object. -/
  | failed (failure : Failure) (culprit : Option Description)

/-- The answer to a step. -/
structure Answer where
  outcome : Outcome
  records : List Record

namespace SessionM

/-- Runs the script of a step, binds its name, and describes what it gave. -/
def performStep (step : SessionStep) : SessionM Description := do
  let r ← step.script.eval []
  match step.name? with
  | some name => bindName name r
  | none => pure ()
  describe r

/-- How a step ended, with the refused object described. -/
def outcomeOf (action : SessionM Description) : SessionM Outcome :=
  tryCatch (Outcome.gave <$> action) fun setback => do
    let culprit ← match setback.culprit? with
      | some r => some <$> describe r
      | none => pure none
    return .failed setback.failure culprit

end SessionM

namespace Session

/-- Runs one step. -/
def runStep (session : Session) (step : SessionStep) : Answer × Session :=
  let (result, session) :=
    (SessionM.outcomeOf (SessionM.performStep step)).run { session with records := [] }
  let outcome := match result with
    | .ok outcome => outcome
    | .error setback => .failed setback.failure none
  (⟨outcome, session.records⟩, session)

/-- Runs steps one after the other. -/
def runFrom (session : Session) : List SessionStep → List Answer
  | [] => []
  | step :: rest =>
    let (answer, session) := session.runStep step
    answer :: runFrom session rest

/-- The answers to the steps of a new session. -/
def run (steps : List SessionStep) : List Answer :=
  runFrom Session.initial steps

end Session

end FilterAlgebra
