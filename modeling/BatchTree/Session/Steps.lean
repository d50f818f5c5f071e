import BatchTree.Session.Basic

/-!
# What a step can be

The ways in which a call can go, a task, and the work of the worker on the batches, with one
constructor for each.  What is said of every step of a session is said case by case over these,
and the functions are not opened again.
-/

namespace BatchTree

/-- An answer that tells of no batch. -/
def Answer.IsPlain : Answer → Prop
  | response _ => False
  | committed _ _ => False
  | path _ => False
  | done => False
  | stat _ => False
  | failed failure => ∃ status path, failure = .node status path
  | _ => True

namespace Task

/-- What can come of a call. -/
inductive Calls (place : Place) (store : Store) (intake : Intake) (rest : List Task)
    (origin : Origin) : Call → Progress → Prop where
  /-- A batch that is not waited for is turned away by the gate, or there is no room for it. -/
  | refused {label : String} {batch : Batch} {script : List Call} {status : Status}
      (refusal : intake.refusal? batch = some status ∨ status = .unavailable) :
      Calls place store intake rest origin (.submitAsync label batch script)
        { store
          intake := intake.issue
          tasks :=
            completionTasks intake.tickets label 0 script ++ .report origin .submitted :: rest
          notes :=
            [.submitted intake.tickets batch,
              .completed intake.tickets (some label) true (.rejected batch.length status)] }
  /-- It joins the queue. -/
  | accepted {label : String} {batch : Batch} {script : List Call}
      (admitted : intake.refusal? batch = none) :
      Calls place store intake rest origin (.submitAsync label batch script)
        { store
          intake := intake.issue.enqueue (.of intake.tickets batch (.calls label script))
          tasks := .report origin .submitted :: rest
          notes := [.submitted intake.tickets batch, .queued intake.tickets] }
  /-- A batch that is waited for outside is turned away: the response lies ready. -/
  | refusedOutside {request : Request} {status : Status} (outside : place ≠ .worker)
      (refusal : intake.refusal? request.operations = some status) :
      Calls place store intake rest origin (.submit request)
        { store
          intake := intake.issue.leave intake.tickets (.rejected request.operations.length status)
          tasks := .receive intake.tickets origin request :: rest
          notes :=
            [.submitted intake.tickets request.operations, .asked intake.tickets origin,
              .completed intake.tickets none true (.rejected request.operations.length status)] }
  /-- It is to be put into the queue. -/
  | handedIn {request : Request} (outside : place ≠ .worker)
      (admitted : intake.refusal? request.operations = none) :
      Calls place store intake rest origin (.submit request)
        { store
          intake := intake.issue
          tasks :=
            .enqueue (.of intake.tickets request.operations .reply) ::
              .receive intake.tickets origin request :: rest
          notes := [.submitted intake.tickets request.operations, .asked intake.tickets origin] }
  /-- A batch that the worker waits for is turned away. -/
  | refusedInline {request : Request} {status : Status} (onWorker : place = .worker)
      (refusal : intake.inlineRefusal? request.operations = some status) :
      Calls place store intake rest origin (.submit request)
        { store
          intake := intake.issue
          tasks := rest
          notes :=
            [.submitted intake.tickets request.operations, .asked intake.tickets origin,
              .completed intake.tickets none true (.rejected request.operations.length status),
              .received intake.tickets,
              .answered origin (request.answer (.rejected request.operations.length status))] }
  /-- It is run on the spot. -/
  | ranInline {request : Request} {after : Store} {response : Response} (onWorker : place = .worker)
      (admitted : intake.inlineRefusal? request.operations = none)
      (ran : intake.run store request.operations = (after, response)) :
      Calls place store intake rest origin (.submit request)
        { store := after
          intake := intake.issue
          tasks := rest
          notes :=
            [.submitted intake.tickets request.operations, .asked intake.tickets origin,
              .ran intake.tickets response, .completed intake.tickets none true response,
              .received intake.tickets, .answered origin (request.answer response)] }
  /-- A call that hands in no batch is answered at once, and changes the gate at most.  What was
  shut down stays so. -/
  | answers {call : Call} {answer : Answer} {authoritative closed : Bool}
      (waitsNot : call.waits = false) (plain : answer.IsPlain)
      (stays : intake.closed = true → closed = true) :
      Calls place store intake rest origin call
        (.answer store { intake with authoritative, closed } rest origin answer)
  | joins (outside : place ≠ .worker) :
      Calls place store intake rest origin .shutDown
        { store
          intake := { intake with closed := true }
          tasks := .join origin :: rest
          notes := [] }
  | holds (onWorker : place = .worker) :
      Calls place store intake rest origin .hold
        { store, intake, tasks := .await origin :: rest, notes := [] }
  | crashes :
      Calls place store intake rest origin .crash
        { store
          intake
          tasks := rest.filter fun task => task.ticket? = none ∨ task.ticket? ≠ origin.ticket?
          notes := [] }

section Calls

variable (place : Place) (store : Store) (intake : Intake) (rest : List Task) (origin : Origin)

/-- Who reads a node is told of no batch, not even if there is nothing to read. -/
theorem isPlain_answerOf_readPath {α : Type} (answer : α → Answer)
    (plain : ∀ value, (answer value).IsPlain) (read : Path → α) (text : String) :
    (answerOf answer ((readPath text).map read)).IsPlain := by
  unfold readPath
  cases Path.parse text with
  | error fault => exact ⟨.badArguments, text, rfl⟩
  | ok path => exact plain (read path)

theorem isPlain_answerOf_readNode (answer : Node → Answer)
    (plain : ∀ node, (answer node).IsPlain) (text : String) :
    (answerOf answer (readNode store text)).IsPlain := by
  unfold readNode readPath
  cases Path.parse text with
  | error fault => exact ⟨.badArguments, text, rfl⟩
  | ok path =>
      dsimp only [Except.mapError]
      cases store.tree.get? path with
      | none => exact ⟨.noNode, path.text, rfl⟩
      | some node => exact plain node

theorem submitAndWait_of_refusal {request : Request} {status : Status}
    (refusal : intake.refusal? request.operations = some status) :
    submitAndWait store intake rest origin request =
      { store
        intake := intake.issue.leave intake.tickets (.rejected request.operations.length status)
        tasks := .receive intake.tickets origin request :: rest
        notes :=
          [.submitted intake.tickets request.operations, .asked intake.tickets origin,
            .completed intake.tickets none true
              (.rejected request.operations.length status)] } := by
  simp only [submitAndWait, refusal, Submission.complete_completion, Submission.callback_of,
    Callback.callAll_singleton, Progress.completing, Callback.call, List.nil_append,
    List.cons_append]

theorem submitAndWait_of_admitted {request : Request}
    (admitted : intake.refusal? request.operations = none) :
    submitAndWait store intake rest origin request =
      { store
        intake := intake.issue
        tasks :=
          .enqueue (.of intake.tickets request.operations .reply) ::
            .receive intake.tickets origin request :: rest
        notes :=
          [.submitted intake.tickets request.operations, .asked intake.tickets origin] } := by
  simp only [submitAndWait, admitted]

theorem calls_of_submitAndWait (outside : place ≠ .worker) (request : Request) :
    Calls place store intake rest origin (.submit request)
      (submitAndWait store intake rest origin request) := by
  cases refusal : intake.refusal? request.operations with
  | some status =>
      rw [submitAndWait_of_refusal store intake rest origin refusal]
      exact .refusedOutside outside refusal
  | none =>
      rw [submitAndWait_of_admitted store intake rest origin refusal]
      exact .handedIn outside refusal

theorem calls_of_submitOnWorker (request : Request) :
    Calls .worker store intake rest origin (.submit request)
      (submitOnWorker store intake rest origin request) := by
  unfold submitOnWorker
  dsimp only
  split
  · rename_i status refusal
    exact .refusedInline rfl refusal
  · rename_i admitted
    exact .ranInline rfl admitted rfl

theorem calls_of_submitAsync (label : String) (batch : Batch) (script : List Call) :
    Calls place store intake rest origin (.submitAsync label batch script)
      (submitAsync store intake rest origin label batch script) := by
  unfold submitAsync
  dsimp only
  split
  · rename_i status refusal
    simp only [Submission.complete_completion, Submission.callback_of,
      Callback.callAll_singleton, Progress.completing, Callback.call, List.singleton_append]
    exact .refused (.inl refusal)
  · rename_i admitted
    cases full : intake.issue.isFull with
    | false =>
        rw [Intake.offer_of_room full]
        exact .accepted admitted
    | true =>
        rw [Intake.offer_of_full full]
        simp only [Submission.drop_completion, Submission.callback_of, Submission.batch_of,
          Callback.callAll_singleton, Progress.completing, Callback.call, List.singleton_append]
        exact .refused (.inr rfl)

theorem calls_of_shutDown :
    Calls place store intake rest origin .shutDown (shutDown place store intake rest origin) := by
  unfold shutDown
  split
  · exact .answers rfl trivial fun _ => rfl
  · rename_i joins
    exact .joins fun onWorker => joins (.inr onWorker)

theorem calls_of_makeCall (call : Call) :
    Calls place store intake rest origin call (makeCall place store intake rest origin call) := by
  cases call with
  | submit request =>
      cases place with
      | worker => exact calls_of_submitOnWorker store intake rest origin request
      | outside finished =>
          exact calls_of_submitAndWait (.outside finished) store intake rest origin nofun request
  | submitAsync label batch script =>
      exact calls_of_submitAsync place store intake rest origin label batch script
  | «exists» text =>
      exact .answers rfl
        (isPlain_answerOf_readPath .found (fun _ => trivial) store.tree.stat? text) id
  | getData text =>
      exact .answers rfl
        (isPlain_answerOf_readNode store (fun node => .data node.data node.stat) (fun _ => trivial)
          text) id
  | getChildren text =>
      exact .answers rfl
        (isPlain_answerOf_readNode store (fun node => .names node.childNames) (fun _ => trivial)
          text) id
  | shutDown => exact calls_of_shutDown place store intake rest origin
  | hold =>
      cases place with
      | worker => exact .holds rfl
      | outside => exact .answers rfl trivial id
  | crash => exact .crashes
  | _ => exact .answers rfl trivial id

end Calls

/-- What a step of a thread can be, by the task that is done. -/
inductive Steps (place : Place) (store : Store) (intake : Intake) (rest : List Task) :
    Task → Progress → Prop where
  | performs {origin : Origin} {call : Call} {progress : Progress}
      (calls : Calls place store intake rest origin call progress) :
      Steps place store intake rest (.perform origin call) progress
  | enters {submission : Submission} (room : intake.isFull = false) :
      Steps place store intake rest (.enqueue submission)
        { store
          intake := intake.enqueue submission
          tasks := rest
          notes := [.queued submission.ticket] }
  | receives {ticket : Nat} {origin : Origin} {request : Request} {response : Response}
      (ready : intake.replies.lookup ticket = some response) :
      Steps place store intake rest (.receive ticket origin request)
        { store
          intake := intake.pickUp ticket
          tasks := rest
          notes := [.received ticket, .answered origin (request.answer response)] }
  | released {origin : Origin} (closed : intake.closed = true) :
      Steps place store intake rest (.await origin) (.answer store intake rest origin .shutDown)
  | joins {origin : Origin} (ended : place = .outside true) :
      Steps place store intake rest (.join origin)
        (.answer store intake rest origin (.flag intake.closed))
  | reports {origin : Origin} {answer : Answer} :
      Steps place store intake rest (.report origin answer)
        (.answer store intake rest origin answer)

theorem steps_of_step? {place : Place} {store : Store} {intake : Intake} {rest : List Task}
    {task : Task} {progress : Progress}
    (stepped : task.step? place store intake rest = some progress) :
    Steps place store intake rest task progress := by
  cases task with
  | perform origin call =>
      cases stepped
      exact .performs (calls_of_makeCall place store intake rest origin call)
  | enqueue submission =>
      simp only [step?] at stepped
      split at stepped
      · cases stepped
      · rename_i notFull
        cases stepped
        exact .enters (Bool.not_eq_true _ ▸ notFull)
  | receive ticket origin request =>
      obtain ⟨response, ready, rfl⟩ := Option.map_eq_some_iff.1 stepped
      exact .receives ready
  | await origin =>
      simp only [step?] at stepped
      split at stepped
      · rename_i closed
        cases stepped
        exact .released closed
      · cases stepped
  | join origin =>
      simp only [step?] at stepped
      split at stepped
      · rename_i ended
        cases stepped
        exact .joins ended
      · cases stepped
  | report origin answer =>
      cases stepped
      exact .reports

end Task

namespace Session

/-- What the next step of the worker can be: the next task of the completion that it runs, or
else the next thing to do about the batches, which is to complete what was run, to run what was
taken, or to take what waits. -/
inductive WorkerStep (store : Store) (session : Session) : Step → Prop where
  | task {task : Task} {rest : List Task} {progress : Progress}
      (isTasks : session.worker.tasks = task :: rest)
      (stepped : task.step? .worker store session.intake rest = some progress) :
      WorkerStep store session
        { store := progress.store
          session :=
            { session with
              intake := progress.intake
              worker := { session.worker with tasks := progress.tasks } }
          notes := progress.notes }
  | replies {submission : Submission} {response : Response} (free : session.worker.tasks = [])
      (isFinished : session.worker.finished = some (submission, response))
      (isReply : submission.callback = .reply) :
      WorkerStep store session
        { store
          session :=
            { session with
              intake := session.intake.leave submission.ticket response
              worker := { session.worker with tasks := [], finished := none } }
          notes := [.completed submission.ticket none false response] }
  | callsBack {submission : Submission} {response : Response} {label : String}
      {script : List Call} (free : session.worker.tasks = [])
      (isFinished : session.worker.finished = some (submission, response))
      (isCalls : submission.callback = .calls label script) :
      WorkerStep store session
        { store
          session :=
            { session with
              worker :=
                { session.worker with
                  tasks := completionTasks submission.ticket label 0 script
                  finished := none } }
          notes := [.completed submission.ticket (some label) false response] }
  | runs {submission : Submission} {after : Store} {response : Response}
      (free : session.worker.tasks = []) (completed : session.worker.finished = none)
      (isTaken : session.worker.taken = some submission)
      (ran : session.intake.run store submission.batch = (after, response)) :
      WorkerStep store session
        { store := after
          session :=
            { session with
              worker :=
                { session.worker with taken := none, finished := some (submission, response) } }
          notes := [.ran submission.ticket response] }
  | takes {submission : Submission} {waiting : List Submission}
      (free : session.worker.tasks = []) (completed : session.worker.finished = none)
      (idle : session.worker.taken = none)
      (isQueue : session.intake.queue = submission :: waiting) :
      WorkerStep store session
        { store
          session :=
            { session with
              intake := { session.intake with queue := waiting }
              worker := { session.worker with taken := some submission } }
          notes := [] }

theorem workerStep_of_workerStep? {store : Store} {session : Session} {step : Step}
    (stepped : session.workerStep? store = some step) : WorkerStep store session step := by
  unfold workerStep? at stepped
  split at stepped
  · rename_i isTasks
    obtain ⟨progress, made, rfl⟩ := Option.map_eq_some_iff.1 stepped
    exact .task isTasks made
  · rename_i free
    split at stepped
    · rename_i submission response isFinished
      cases stepped
      unfold complete
      rw [submission.complete_completion, Callback.callAll_singleton]
      cases isCallback : submission.callback with
      | reply => exact .replies free isFinished isCallback
      | calls label script => exact .callsBack free isFinished isCallback
    · rename_i submission completed isTaken
      cases stepped
      exact .runs free completed isTaken rfl
    · rename_i submission waiting completed idle isQueue
      cases stepped
      exact .takes free completed idle isQueue
    · cases stepped

end Session

end BatchTree
