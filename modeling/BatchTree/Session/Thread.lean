import BatchTree.Session.Intake

/-!
# Threads

A thread is the list of tasks that it still has to do.  The worker of a session
is a thread, and so is each of its callers.  A completion that runs on a thread
puts its calls in front of that thread's tasks, so completions nest.
-/

namespace BatchTree

/-- Who made a call: somebody outside, or the completion of a submission, which
makes its calls one by one. -/
inductive Origin where
  | caller
  | completion (ticket : Nat) (label : String) (position : Nat)
  deriving DecidableEq

/-- The completion that a call belongs to. -/
def Origin.ticket? : Origin → Option Nat
  | caller => none
  | completion ticket _ _ => some ticket

/-- One thing for a thread to do. -/
inductive Task where
  | perform (origin : Origin) (call : Call)
  /-- Put a submission into the queue once there is room. -/
  | enqueue (submission : Submission)
  /-- Pick up the response to a request once it is there. -/
  | receive (ticket : Nat) (origin : Origin) (request : Request)
  /-- Wait for a release, or for the session to be shut down. -/
  | await (origin : Origin)
  /-- Wait for the worker to come to its end. -/
  | join (origin : Origin)
  /-- A call has come to its end. -/
  | report (origin : Origin) (answer : Answer)

/-- The completion that a task belongs to. -/
def Task.ticket? : Task → Option Nat
  | perform origin _ => origin.ticket?
  | enqueue _ => none
  | receive _ origin _ => origin.ticket?
  | await origin => origin.ticket?
  | join origin => origin.ticket?
  | report origin _ => origin.ticket?

/-- What happens in a session, in the order in which it happens. -/
inductive Note where
  /-- A batch was handed in and drew a ticket. -/
  | submitted (ticket : Nat) (batch : Batch)
  /-- Whoever made the call that handed it in waits for the response. -/
  | asked (ticket : Nat) (origin : Origin)
  /-- The batch was put into the queue. -/
  | queued (ticket : Nat)
  /-- The turn of the batch came, with this response. -/
  | ran (ticket : Nat) (response : Response)
  /-- The batch was completed, under a label if it was not waited for; `inline`
  says that this was on the thread that handed it in. -/
  | completed (ticket : Nat) (label : Option String) (inline : Bool) (response : Response)
  /-- The response was received by whoever waited for it, and makes the next answer. -/
  | received (ticket : Nat)
  | answered (origin : Origin) (answer : Answer)
  deriving DecidableEq

/-- The tasks of a completion, its next call being at `position`. -/
def completionTasks (ticket : Nat) (label : String) (position : Nat) : List Call → List Task
  | [] => []
  | call :: rest =>
      .perform (.completion ticket label position) call ::
        completionTasks ticket label (position + 1) rest

/-- What comes of callbacks that are called: the intake afterwards, what the thread has to do
before it goes on, and what is noted. -/
structure Callback.Result where
  intake : Intake
  tasks : List Task
  notes : List Note

namespace Callback

/-- Call a callback; `inline` says that this is on the thread that handed the batch in. -/
def call (callback : Callback) (ticket : Nat) (inline : Bool) (intake : Intake)
    (response : Response) : Result :=
  match callback with
  | .reply =>
      { intake := intake.leave ticket response
        tasks := []
        notes := [.completed ticket none inline response] }
  | .calls label script =>
      { intake
        tasks := completionTasks ticket label 0 script
        notes := [.completed ticket (some label) inline response] }

/-- Call callbacks, one after the other. -/
def callAll (ticket : Nat) (inline : Bool) (intake : Intake) :
    List (Callback × Response) → Result
  | [] => { intake, tasks := [], notes := [] }
  | (callback, response) :: rest =>
      let first := callback.call ticket inline intake response
      let others := callAll ticket inline first.intake rest
      { intake := others.intake
        tasks := first.tasks ++ others.tasks
        notes := first.notes ++ others.notes }

@[simp] theorem callAll_singleton (ticket : Nat) (inline : Bool) (intake : Intake)
    (callback : Callback) (response : Response) :
    callAll ticket inline intake [(callback, response)] =
      callback.call ticket inline intake response := by
  simp [callAll]

end Callback

/-- Where a thread runs. -/
inductive Place where
  | worker
  /-- A thread of a caller; `finished` says that the worker has nothing left to do. -/
  | outside (finished : Bool)
  deriving DecidableEq

/-- The state after a task, with what is left for the thread to do. -/
structure Progress where
  store : Store
  intake : Intake
  tasks : List Task
  notes : List Note

namespace Progress

/-- The task is over with an answer and changed the intake at most. -/
def answer (store : Store) (intake : Intake) (rest : List Task) (origin : Origin)
    (answer : Answer) : Progress where
  store := store
  intake := intake
  tasks := rest
  notes := [.answered origin answer]

/-- A batch that was handed in is completed at once: the thread calls its callback before it
goes on. -/
def completing (store : Store) (rest : List Task) (notes : List Note)
    (called : Callback.Result) : Progress where
  store := store
  intake := called.intake
  tasks := called.tasks ++ rest
  notes := notes ++ called.notes

end Progress

namespace Task

/-- Read the path of a call. -/
def readPath (text : String) : Except Failure Path :=
  (Path.parse text).mapError fun _ => .node .badArguments text

/-- The node that a call asks for. -/
def readNode (store : Store) (text : String) : Except Failure Node :=
  match readPath text with
  | .error failure => .error failure
  | .ok path =>
      match store.tree.get? path with
      | some node => .ok node
      | none => .error (.node .noNode path.text)

/-- The answer of a result that may be a failure. -/
def answerOf {α : Type} (answer : α → Answer) : Except Failure α → Answer
  | .ok value => answer value
  | .error failure => .failed failure

/-- Hand in a batch without waiting.  If it is turned away it is completed here and now, and if
the queue is full it is let go of. -/
def submitAsync (store : Store) (intake : Intake) (rest : List Task) (origin : Origin)
    (label : String) (batch : Batch) (script : List Call) : Progress :=
  let ticket := intake.tickets
  let submission := Submission.of ticket batch (.calls label script)
  let next := .report origin .submitted :: rest
  match intake.refusal? batch with
  | some status =>
      .completing store next [.submitted ticket batch]
        (Callback.callAll ticket true intake.issue
          (submission.completion.complete (.rejected batch.length status)))
  | none =>
      match intake.issue.offer submission with
      | .ok intake =>
          { store, intake, tasks := next, notes := [.submitted ticket batch, .queued ticket] }
      | .error submission =>
          .completing store next [.submitted ticket batch]
            (Callback.callAll ticket true intake.issue submission.completion.drop)

/-- Hand in a batch from outside and wait for its response, and before that for
room in the queue. -/
def submitAndWait (store : Store) (intake : Intake) (rest : List Task) (origin : Origin)
    (request : Request) : Progress :=
  let ticket := intake.tickets
  let batch := request.operations
  let submission := Submission.of ticket batch .reply
  let next := .receive ticket origin request :: rest
  let notes := [.submitted ticket batch, .asked ticket origin]
  match intake.refusal? batch with
  | some status =>
      .completing store next notes
        (Callback.callAll ticket true intake.issue
          (submission.completion.complete (.rejected batch.length status)))
  | none => { store, intake := intake.issue, tasks := .enqueue submission :: next, notes }

/-- Run a batch that the worker hands in and waits for.  It is run on the spot:
to queue it would be to wait for oneself. -/
def submitOnWorker (store : Store) (intake : Intake) (rest : List Task) (origin : Origin)
    (request : Request) : Progress :=
  let ticket := intake.tickets
  let batch := request.operations
  match intake.inlineRefusal? batch with
  | some status =>
      let response := Response.rejected batch.length status
      { store
        intake := intake.issue
        tasks := rest
        notes :=
          [.submitted ticket batch, .asked ticket origin, .completed ticket none true response,
            .received ticket, .answered origin (request.answer response)] }
  | none =>
      let (store, response) := intake.run store batch
      { store
        intake := intake.issue
        tasks := rest
        notes :=
          [.submitted ticket batch, .asked ticket origin, .ran ticket response,
            .completed ticket none true response, .received ticket,
            .answered origin (request.answer response)] }

/-- Shut the session down.  Whoever is the first to do so from outside waits for
the worker to finish. -/
def shutDown (place : Place) (store : Store) (intake : Intake) (rest : List Task)
    (origin : Origin) : Progress :=
  if intake.closed ∨ place = .worker then
    .answer store { intake with closed := true } rest origin (.flag true)
  else
    { store
      intake := { intake with closed := true }
      tasks := .join origin :: rest
      notes := [] }

/-- Make a call. -/
def makeCall (place : Place) (store : Store) (intake : Intake) (rest : List Task)
    (origin : Origin) : Call → Progress
  | .submit request =>
      match place with
      | .worker => submitOnWorker store intake rest origin request
      | .outside _ => submitAndWait store intake rest origin request
  | .submitAsync label batch completion =>
      submitAsync store intake rest origin label batch completion
  | .exists path =>
      let stat? := (readPath path).map store.tree.stat?
      .answer store intake rest origin (answerOf .found stat?)
  | .getData path =>
      let node := readNode store path
      .answer store intake rest origin (answerOf (fun node => .data node.data node.stat) node)
  | .getChildren path =>
      let node := readNode store path
      .answer store intake rest origin (answerOf (fun node => .names node.childNames) node)
  | .setAuthoritative value =>
      .answer store { intake with authoritative := value } rest origin (.flag value)
  | .shutDown => shutDown place store intake rest origin
  | .status =>
      .answer store intake rest origin (.flags intake.authoritative intake.closed)
  | .config => .answer store intake rest origin (.config intake.config)
  | .describe => .answer store intake rest origin (.description intake.description)
  | .hold =>
      match place with
      | .worker => { store, intake, tasks := .await origin :: rest, notes := [] }
      | .outside _ => .answer store intake rest origin .notOnWorker
  | .crash =>
      { store
        intake
        tasks := rest.filter fun task => task.ticket? = none ∨ task.ticket? ≠ origin.ticket?
        notes := [] }
  | .unknownMode flag => .answer store intake rest origin (.unknownMode flag)

/-- Do a task, if the thread need not wait. -/
def step? (place : Place) (store : Store) (intake : Intake) (rest : List Task) :
    Task → Option Progress
  | perform origin call => some (makeCall place store intake rest origin call)
  | enqueue submission =>
      if intake.isFull then
        none
      else
        some
          { store
            intake := intake.enqueue submission
            tasks := rest
            notes := [.queued submission.ticket] }
  | receive ticket origin request =>
      (intake.replies.lookup ticket).map fun response =>
        { store
          intake := intake.pickUp ticket
          tasks := rest
          notes := [.received ticket, .answered origin (request.answer response)] }
  | await origin =>
      if intake.closed then
        some (.answer store intake rest origin .shutDown)
      else
        none
  | join origin =>
      if place = .outside true then
        some (.answer store intake rest origin (.flag intake.closed))
      else
        none
  | report origin answer => some (.answer store intake rest origin answer)

end Task

end BatchTree
