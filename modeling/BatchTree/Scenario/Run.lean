import BatchTree.Scenario.Expectation
import BatchTree.Session.Schedule

/-!
# Scenarios

A scenario is a test: batches that are submitted one after the other to a session
of their own, each with an expectation.  It ends with the first that is not met.
-/

namespace BatchTree

namespace Scenario

/-- One batch and what is expected of it. -/
structure Step where
  name : String
  batch : Batch
  expectation : Expectation

/-- How a scenario fails. -/
inductive Fault where
  /-- No session could be opened. -/
  | session (fault : Config.Fault)
  /-- The batch that prepares the tree did not commit. -/
  | seedFailed (scenario : String) (status : Status)
  | assertionFailed (step : String) (mismatch : Mismatch)
  deriving DecidableEq

/-- The wording of a fault. -/
def Fault.message : Fault → String
  | .session fault => s!"session error: {fault.message}"
  | .seedFailed scenario status =>
      s!"seed for scenario '{scenario}' failed with {status.message}"
  | .assertionFailed step mismatch =>
      s!"assertion failed for step '{step}': {mismatch.message}"

end Scenario

/-- A test of several steps. -/
structure Scenario where
  name : String
  config : Config := {}
  /-- Submitted before the first step, unless it is empty. -/
  seed : Batch := []
  steps : List Scenario.Step := []

namespace Scenario

/-- A session in the course of a scenario.  The first watcher of the store records
the events. -/
structure Stage where
  store : Store
  session : Session

namespace Stage

/-- Where a scenario starts: a fresh store with a recorder. -/
def first (session : Session) : Stage where
  store := { watchers := Broadcast.add {} .recorder }
  session := session

/-- The events recorded since they were last cleared. -/
def events (stage : Stage) : List Event :=
  ((stage.store.watchers.sink? 0).bind Mailbox.waiting?).getD []

/-- Forget the recorded events. -/
def cleared (stage : Stage) : Stage :=
  { stage with
    store :=
      { stage.store with watchers := stage.store.watchers.modifySink 0 Mailbox.emptied } }

/-- Submit a batch and wait for its response. -/
def submit (stage : Stage) (batch : Batch) : Stage × Response :=
  let (step, response) := stage.session.execute stage.store batch
  (⟨step.store, step.session⟩, response)

/-- Submit a batch and see what becomes of it. -/
def observe (stage : Stage) (batch : Batch) : Stage × Observation :=
  let (after, response) := stage.submit batch
  (after.cleared,
    { response
      before := stage.store.tree
      after := after.store.tree
      events := after.events })

end Stage

/-- Prepare the tree. -/
def runSeed (scenario : Scenario) (stage : Stage) : Stage × Except Fault Unit :=
  if scenario.seed.isEmpty then
    (stage.cleared, .ok ())
  else
    let (after, response) := stage.submit scenario.seed
    if response.isCommitted then
      (after.cleared, .ok ())
    else
      (after, .error (.seedFailed scenario.name response.outcome))

/-- Run steps in order up to the first whose expectation is not met. -/
def runSteps (stage : Stage) : List Step → Stage × Except Fault Unit
  | [] => (stage, .ok ())
  | step :: rest =>
      let (after, observation) := stage.observe step.batch
      match step.expectation.mismatch? observation with
      | some mismatch => (after, .error (.assertionFailed step.name mismatch))
      | none => runSteps after rest

/-- Run a scenario in a session.  Yields the stage at which it ends and the verdict. -/
def runIn (scenario : Scenario) (session : Session) : Stage × Except Fault Unit :=
  match scenario.runSeed (.first session) with
  | (stage, .error fault) => (stage, .error fault)
  | (stage, .ok ()) => runSteps stage scenario.steps

/-- Run a scenario. -/
def run (scenario : Scenario) : Except Fault Unit :=
  match Session.openWith scenario.config with
  | .error fault => .error (.session fault)
  | .ok session => (scenario.runIn session).2

end Scenario

end BatchTree
