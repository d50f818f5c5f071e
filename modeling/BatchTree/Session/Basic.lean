import BatchTree.Session.Thread

/-!
# Sessions

A session is its intake, one worker, and any number of callers outside.  It moves
in small steps, each made by one thread, and which thread moves next is left open:
a statement about all runs is one about all sequences of moves.  The worker takes
the waiting batches in order and completes each before it takes the next.
-/

namespace BatchTree

/-- The thread that runs the batches of a session. -/
structure Worker where
  tasks : List Task := []
  /-- A batch that was taken from the queue and is not yet run. -/
  taken : Option Submission := none
  /-- A batch that was run and is not yet completed. -/
  finished : Option (Submission × Response) := none

/-- A session with all of its threads. -/
structure Session where
  intake : Intake
  worker : Worker := {}
  /-- What each caller still has to do. -/
  callers : List (List Task) := []

namespace Session

/-- Open a session. -/
def openWith (config : Config) : Except Config.Fault Session :=
  config.validate.map fun config => { intake := { config } }

/-- Is the worker held up in a completion? -/
def isHeld (session : Session) : Bool :=
  match session.worker.tasks with
  | .await _ :: _ => !session.intake.closed
  | _ => false

/-- Has the worker nothing left to do, now and in future?  A caller who waits for
room in the queue will still give it something. -/
def isFinished (session : Session) : Bool :=
  session.worker.tasks.isEmpty && session.worker.taken.isNone &&
    session.worker.finished.isNone && session.intake.queue.isEmpty &&
    session.callers.all fun tasks =>
      match tasks with
      | .enqueue _ :: _ => false
      | _ => true

/-- The state after a step, with what happened in it. -/
structure Step where
  store : Store
  session : Session
  notes : List Note

/-- Complete a batch that was run. -/
def complete (store : Store) (session : Session) (submission : Submission)
    (response : Response) : Step :=
  let called := Callback.callAll submission.ticket false session.intake
    (submission.completion.complete response)
  { store
    session :=
      { session with
        intake := called.intake
        worker := { session.worker with tasks := called.tasks, finished := none } }
    notes := called.notes }

/-- Run the batch that was taken. -/
def runTaken (store : Store) (session : Session) (submission : Submission) : Step :=
  let (after, response) := session.intake.run store submission.batch
  { store := after
    session :=
      { session with
        worker := { session.worker with taken := none, finished := some (submission, response) } }
    notes := [.ran submission.ticket response] }

/-- Take the batch that has waited longest.  From now on there is room for another. -/
def takeNext (store : Store) (session : Session) (submission : Submission)
    (waiting : List Submission) : Step where
  store := store
  session :=
    { session with
      intake := { session.intake with queue := waiting }
      worker := { session.worker with taken := some submission } }
  notes := []

/-- The next step of the worker, unless it is held or has nothing to do. -/
def workerStep? (store : Store) (session : Session) : Option Step :=
  match session.worker.tasks with
  | task :: rest =>
      (task.step? .worker store session.intake rest).map fun progress =>
        { store := progress.store
          session :=
            { session with
              intake := progress.intake
              worker := { session.worker with tasks := progress.tasks } }
          notes := progress.notes }
  | [] =>
      match session.worker.finished, session.worker.taken, session.intake.queue with
      | some (submission, response), _, _ => some (session.complete store submission response)
      | none, some submission, _ => some (session.runTaken store submission)
      | none, none, submission :: waiting => some (session.takeNext store submission waiting)
      | none, none, [] => none

/-- The next step of a caller, unless it waits or has nothing to do. -/
def callerStep? (store : Store) (session : Session) (index : Nat) : Option Step :=
  match session.callers[index]? with
  | some (task :: rest) =>
      (task.step? (.outside session.isFinished) store session.intake rest).map fun progress =>
        { store := progress.store
          session :=
            { session with
              intake := progress.intake
              callers := session.callers.set index progress.tasks }
          notes := progress.notes }
  | _ => none

/-- Let go a worker that is held. -/
def release (session : Session) : Session :=
  match session.worker.tasks with
  | .await origin :: rest =>
      { session with
        worker := { session.worker with tasks := .report origin .released :: rest } }
  | _ => session

/-- A new caller makes a call. -/
def arrive (session : Session) (call : Call) : Session :=
  { session with callers := session.callers ++ [[.perform .caller call]] }

/-- What can happen next in a session. -/
inductive Move where
  | arrive (call : Call)
  | caller (index : Nat)
  | worker
  | release

/-- Make a move.  A move of a thread that cannot go on is none. -/
def move? (store : Store) (session : Session) : Move → Option Step
  | .arrive call => some { store, session := session.arrive call, notes := [] }
  | .caller index => session.callerStep? store index
  | .worker => session.workerStep? store
  | .release => some { store, session := session.release, notes := [] }

end Session

end BatchTree
