import BatchTree.Session.Steps

/-!
# The work left in a session

Every call is charged for the most that can come of it, so each step of a thread
lowers the charge of the whole session.  Hence a session that nobody calls comes
to rest: `workerStep?_load_lt` and `callerStep?_load_lt`.
-/

namespace BatchTree

mutual

/-- The charge of a call.  One that submits a batch also answers for the calls of
its completion. -/
def Call.load : Call → Nat
  | .submitAsync _ _ completion => Call.totalLoad completion + 5
  | _ => 6

/-- The charge of a list of calls. -/
def Call.totalLoad : List Call → Nat
  | [] => 0
  | call :: rest => call.load + Call.totalLoad rest

end

theorem Call.load_pos (call : Call) : 0 < call.load := by
  cases call with
  | _ => simp only [Call.load, Nat.zero_lt_succ]

/-- The charge of what is done with a response. -/
def Callback.load : Callback → Nat
  | .reply => 0
  | .calls _ script => Call.totalLoad script

/-- The charge of a batch that waits to be taken, to be run and then to be completed. -/
def Submission.load (submission : Submission) : Nat :=
  submission.callback.load + 3

/-- The charge of a queue. -/
def Submission.totalLoad : List Submission → Nat
  | [] => 0
  | submission :: rest => submission.load + Submission.totalLoad rest

def Task.load : Task → Nat
  | .perform _ call => call.load
  | .enqueue submission => submission.load + 1
  | .receive .. => 1
  | .await _ => 2
  | .join _ => 1
  | .report .. => 1

/-- The charge of a thread. -/
def Task.totalLoad : List Task → Nat
  | [] => 0
  | task :: rest => task.load + Task.totalLoad rest

/-- The charge of several threads. -/
def Task.threadLoad : List (List Task) → Nat
  | [] => 0
  | tasks :: rest => Task.totalLoad tasks + Task.threadLoad rest

/-- The charge of a worker, in which a batch that was taken waits to be run and to be completed,
and one that was run waits to be completed. -/
def Worker.load (worker : Worker) : Nat :=
  Task.totalLoad worker.tasks +
    (match worker.taken with
      | some submission => submission.callback.load + 2
      | none => 0) +
    match worker.finished with
    | some (submission, _) => submission.callback.load + 1
    | none => 0

/-- The charge of a session. -/
def Session.load (session : Session) : Nat :=
  Submission.totalLoad session.intake.queue + session.worker.load +
    Task.threadLoad session.callers

namespace Task

@[simp] theorem totalLoad_nil : totalLoad [] = 0 := rfl

@[simp] theorem totalLoad_cons (task : Task) (rest : List Task) :
    totalLoad (task :: rest) = task.load + totalLoad rest := rfl

@[simp] theorem totalLoad_append (left right : List Task) :
    totalLoad (left ++ right) = totalLoad left + totalLoad right := by
  induction left with
  | nil => simp
  | cons task rest ih => simp [ih, Nat.add_assoc]

theorem totalLoad_filter_le (keep : Task → Bool) (tasks : List Task) :
    totalLoad (tasks.filter keep) ≤ totalLoad tasks := by
  induction tasks with
  | nil => simp
  | cons task rest ih =>
      rw [List.filter_cons]
      split
      · simpa using ih
      · rw [totalLoad_cons]
        omega

@[simp] theorem totalLoad_completionTasks (ticket : Nat) (label : String) (position : Nat)
    (calls : List Call) :
    totalLoad (completionTasks ticket label position calls) = Call.totalLoad calls := by
  induction calls generalizing position with
  | nil => rfl
  | cons call rest ih => simp [completionTasks, Call.totalLoad, Task.load, ih]

end Task

@[simp] theorem Submission.totalLoad_nil : Submission.totalLoad [] = 0 := rfl

@[simp] theorem Submission.totalLoad_cons (submission : Submission) (rest : List Submission) :
    Submission.totalLoad (submission :: rest) =
      submission.load + Submission.totalLoad rest := rfl

@[simp] theorem Submission.totalLoad_append (left right : List Submission) :
    Submission.totalLoad (left ++ right) =
      Submission.totalLoad left + Submission.totalLoad right := by
  induction left with
  | nil => simp
  | cons submission rest ih => simp [ih, Nat.add_assoc]

@[simp] theorem Intake.queue_enqueue_load (intake : Intake) (submission : Submission) :
    Submission.totalLoad (intake.enqueue submission).queue =
      Submission.totalLoad intake.queue + submission.load := by
  simp [Intake.enqueue]

@[simp] theorem Intake.queue_issue (intake : Intake) : intake.issue.queue = intake.queue := rfl

@[simp] theorem Intake.queue_leave (intake : Intake) (ticket : Nat) (response : Response) :
    (intake.leave ticket response).queue = intake.queue := rfl

@[simp] theorem Intake.queue_pickUp (intake : Intake) (ticket : Nat) :
    (intake.pickUp ticket).queue = intake.queue := rfl

/-- The charge of a thread and of the queue it may add to. -/
def Progress.load (progress : Progress) : Nat :=
  Submission.totalLoad progress.intake.queue + Task.totalLoad progress.tasks

@[simp] theorem Progress.load_answer (store : Store) (intake : Intake) (rest : List Task)
    (origin : Origin) (answer : Answer) :
    (Progress.answer store intake rest origin answer).load =
      Submission.totalLoad intake.queue + Task.totalLoad rest := rfl

namespace Task

theorem Calls.load_lt {place : Place} {store : Store} {intake : Intake} {rest : List Task}
    {origin : Origin} {call : Call} {progress : Progress}
    (calls : Calls place store intake rest origin call progress) :
    progress.load < Submission.totalLoad intake.queue + call.load + totalLoad rest := by
  cases calls with
  | refused =>
      simp only [Progress.load, Intake.queue_issue, totalLoad_append, totalLoad_completionTasks,
        totalLoad_cons, Task.load, Call.load]
      omega
  | accepted =>
      simp only [Progress.load, Intake.queue_enqueue_load, Intake.queue_issue, Submission.load,
        Submission.callback_of, Callback.load, totalLoad_cons, Task.load, Call.load]
      omega
  | refusedOutside =>
      simp only [Progress.load, Intake.queue_leave, Intake.queue_issue, totalLoad_cons, Task.load,
        Call.load]
      omega
  | handedIn =>
      simp only [Progress.load, Intake.queue_issue, totalLoad_cons, Task.load, Call.load,
        Submission.load, Submission.callback_of, Callback.load]
      omega
  | answers =>
      have charged := call.load_pos
      simp only [Progress.load_answer]
      omega
  | crashes =>
      have fewer := totalLoad_filter_le
        (fun task => decide (task.ticket? = none ∨ task.ticket? ≠ origin.ticket?)) rest
      simp only [Progress.load, Call.load]
      omega
  | _ =>
      simp only [Progress.load, Intake.queue_issue, totalLoad_cons, Task.load, Call.load]
      omega

/-- Every step of a thread lowers the charge. -/
theorem load_step?_lt {place : Place} {store : Store} {intake : Intake} {rest : List Task}
    {task : Task} {progress : Progress}
    (stepped : task.step? place store intake rest = some progress) :
    progress.load < Submission.totalLoad intake.queue + task.load + totalLoad rest := by
  cases steps_of_step? stepped with
  | performs calls => exact calls.load_lt
  | enters room =>
      simp only [Progress.load, Intake.queue_enqueue_load, Task.load]
      omega
  | receives ready =>
      simp only [Progress.load, Intake.queue_pickUp, Task.load]
      omega
  | released closed =>
      simp only [Progress.load_answer, Task.load]
      omega
  | joins ended =>
      simp only [Progress.load_answer, Task.load]
      omega
  | reports =>
      simp only [Progress.load_answer, Task.load]
      omega

end Task

namespace Session

/-- Every step of the worker lowers the charge. -/
theorem workerStep?_load_lt {store : Store} {session : Session} {step : Step}
    (stepped : session.workerStep? store = some step) : step.session.load < session.load := by
  cases workerStep_of_workerStep? stepped with
  | task isTasks made =>
      have lower := Task.load_step?_lt made
      simp only [Progress.load] at lower
      simp only [load, Worker.load, isTasks, Task.totalLoad_cons]
      omega
  | replies free isFinished isReply =>
      simp only [load, Worker.load, Intake.queue_leave, free, isFinished, isReply, Callback.load]
      omega
  | callsBack free isFinished isCalls =>
      simp only [load, Worker.load, Task.totalLoad_completionTasks, Task.totalLoad_nil, free,
        isFinished, isCalls, Callback.load]
      omega
  | runs free completed isTaken ran =>
      simp only [load, Worker.load, Task.totalLoad_nil, free, completed, isTaken]
      omega
  | takes free completed idle isQueue =>
      simp only [load, Worker.load, Task.totalLoad_nil, free, completed, idle, isQueue,
        Submission.totalLoad_cons, Submission.load]
      omega

theorem threadLoad_set {callers : List (List Task)} {index : Nat} {before : List Task}
    (found : callers[index]? = some before) (after : List Task) :
    Task.threadLoad (callers.set index after) + Task.totalLoad before =
      Task.threadLoad callers + Task.totalLoad after := by
  induction callers generalizing index with
  | nil => simp at found
  | cons head tail ih =>
      cases index with
      | zero =>
          simp only [List.getElem?_cons_zero, Option.some.injEq] at found
          simp only [found, List.set_cons_zero, Task.threadLoad]
          omega
      | succ index =>
          have rest := ih (by simpa using found)
          simp only [List.set_cons_succ, Task.threadLoad]
          omega

/-- Every step of a caller lowers the charge. -/
theorem callerStep?_load_lt {store : Store} {session : Session} {index : Nat} {step : Step}
    (stepped : session.callerStep? store index = some step) :
    step.session.load < session.load := by
  unfold callerStep? at stepped
  split at stepped
  · rename_i task rest tasks
    obtain ⟨progress, made, rfl⟩ := Option.map_eq_some_iff.1 stepped
    have lower := Task.load_step?_lt made
    simp only [Progress.load] at lower
    have callers := threadLoad_set tasks progress.tasks
    simp only [load]
    rw [Task.totalLoad_cons] at callers
    omega
  · cases stepped

end Session

end BatchTree
