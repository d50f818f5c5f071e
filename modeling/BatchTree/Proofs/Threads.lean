import BatchTree.Session.Steps

/-!
# Threads in order

A thread waits with its first task alone: what stands behind that task is done as soon as its
turn comes.  A caller who waits for room in the queue goes on to wait for the response.  Every
move leaves the threads of a session in this order, and none changes the settings.
-/

namespace BatchTree

/-- Somebody who waits for the response to a request. -/
structure Waiter where
  ticket : Nat
  origin : Origin
  request : Request

namespace Task

/-- The submission that a task is to put into the queue. -/
def submission? : Task → Option Submission
  | enqueue submission => some submission
  | _ => none

/-- Who waits for a response, if the task is to receive it. -/
def waiter? : Task → Option Waiter
  | receive ticket origin request => some ⟨ticket, origin, request⟩
  | _ => none

/-- A task that is done as soon as its turn comes, and waits for nobody. -/
def IsPlanned : Task → Prop
  | perform _ _ => True
  | report _ answer => answer.IsPlain
  | _ => False

/-- A task that puts nothing into the queue. -/
def IsCalm : Task → Prop
  | enqueue _ => False
  | report _ answer => answer.IsPlain
  | _ => True

/-- Only the first task of a thread waits.  Who waits for room in the queue goes on to wait
for the response. -/
inductive Orderly : List Task → Prop where
  | nil : Orderly []
  | first {task : Task} {rest : List Task} (calm : task.IsCalm)
      (planned : ∀ other ∈ rest, other.IsPlanned) : Orderly (task :: rest)
  | entering {submission : Submission} {origin : Origin} {request : Request} {rest : List Task}
      (planned : ∀ other ∈ rest, other.IsPlanned) :
      Orderly (.enqueue submission :: .receive submission.ticket origin request :: rest)

variable {task : Task} {rest tasks : List Task}

theorem IsCalm.submission?_eq (calm : task.IsCalm) : task.submission? = none := by
  cases task with
  | enqueue => cases calm
  | _ => rfl

theorem IsPlanned.isCalm (planned : task.IsPlanned) : task.IsCalm := by
  cases task with
  | perform => trivial
  | report => exact planned
  | _ => cases planned

theorem IsPlanned.waiter?_eq (planned : task.IsPlanned) : task.waiter? = none := by
  cases task with
  | perform => rfl
  | report => rfl
  | _ => cases planned

theorem submissions_of_planned (planned : ∀ task ∈ tasks, task.IsPlanned) :
    tasks.filterMap submission? = [] :=
  List.filterMap_eq_nil_iff.2 fun task member => (planned task member).isCalm.submission?_eq

theorem waiters_of_planned (planned : ∀ task ∈ tasks, task.IsPlanned) :
    tasks.filterMap waiter? = [] :=
  List.filterMap_eq_nil_iff.2 fun task member => (planned task member).waiter?_eq

theorem orderly_of_planned (planned : ∀ task ∈ tasks, task.IsPlanned) : Orderly tasks := by
  cases tasks with
  | nil => exact .nil
  | cons task rest =>
      rw [List.forall_mem_cons] at planned
      exact .first planned.1.isCalm planned.2

theorem Orderly.planned_of_calm (orderly : Orderly (task :: rest))
    (calm : task.IsCalm) : ∀ other ∈ rest, other.IsPlanned := by
  cases orderly with
  | first _ planned => exact planned
  | entering => cases calm

theorem isPlanned_of_mem_completionTasks {ticket : Nat} {label : String} {position : Nat}
    {calls : List Call} (member : task ∈ completionTasks ticket label position calls) :
    task.IsPlanned := by
  induction calls generalizing position with
  | nil => cases member
  | cons call calls ih =>
      rcases List.mem_cons.1 member with rfl | later
      · trivial
      · exact ih later

/-- The calls of a completion, made before a thread goes on as planned. -/
theorem planned_completion {ticket : Nat} {label : String} {calls : List Call}
    (planned : ∀ task ∈ tasks, task.IsPlanned) :
    ∀ task ∈ completionTasks ticket label 0 calls ++ tasks, task.IsPlanned := by
  intro task member
  rcases List.mem_append.1 member with called | later
  · exact isPlanned_of_mem_completionTasks called
  · exact planned task later

theorem planned_cons (first : task.IsPlanned) (planned : ∀ other ∈ rest, other.IsPlanned) :
    ∀ other ∈ task :: rest, other.IsPlanned :=
  List.forall_mem_cons.2 ⟨first, planned⟩

section Call

variable {place : Place} {store : Store} {intake : Intake} {origin : Origin} {call : Call}
  {progress : Progress}

/-- A call leaves an orderly thread. -/
theorem Calls.orderly (calls : Calls place store intake rest origin call progress)
    (planned : ∀ other ∈ rest, other.IsPlanned) : Orderly progress.tasks := by
  have reported : ∀ other ∈ .report origin .submitted :: rest, other.IsPlanned :=
    planned_cons trivial planned
  cases calls with
  | refused => exact orderly_of_planned (planned_completion reported)
  | accepted => exact orderly_of_planned reported
  | refusedOutside => exact .first trivial planned
  | handedIn => exact .entering planned
  | joins => exact .first trivial planned
  | holds => exact .first trivial planned
  | crashes =>
      exact orderly_of_planned fun other member => planned other (List.mem_filter.1 member).1
  | _ => exact orderly_of_planned planned

theorem Calls.config_eq (calls : Calls place store intake rest origin call progress) :
    progress.intake.config = intake.config := by
  cases calls with
  | _ => rfl

end Call

/-- A step leaves an orderly thread. -/
theorem Orderly.step {place : Place} {store : Store} {intake : Intake} {progress : Progress}
    (orderly : Orderly (task :: rest))
    (stepped : task.step? place store intake rest = some progress) : Orderly progress.tasks := by
  cases steps_of_step? stepped with
  | performs calls => exact calls.orderly (orderly.planned_of_calm trivial)
  | enters room =>
      cases orderly with
      | first calm => cases calm
      | entering planned => exact .first trivial planned
  | receives ready => exact orderly_of_planned (orderly.planned_of_calm trivial)
  | released closed => exact orderly_of_planned (orderly.planned_of_calm trivial)
  | joins ended => exact orderly_of_planned (orderly.planned_of_calm trivial)
  | reports =>
      cases orderly with
      | first calm planned => exact orderly_of_planned planned

/-- The settings of a session are never changed. -/
theorem config_step? {place : Place} {store : Store} {intake : Intake} {progress : Progress}
    (stepped : task.step? place store intake rest = some progress) :
    progress.intake.config = intake.config := by
  cases steps_of_step? stepped with
  | performs calls => exact calls.config_eq
  | _ => rfl

end Task

namespace Session

/-- All threads of a session are orderly. -/
structure InOrder (session : Session) : Prop where
  worker : Task.Orderly session.worker.tasks
  callers : ∀ tasks ∈ session.callers, Task.Orderly tasks

variable {store : Store} {session : Session} {move : Move} {step : Step}

/-- The task that a thread does if it makes the move. -/
def task? (session : Session) : Move → Option Task
  | .arrive _ => none
  | .caller index => session.callers[index]?.bind List.head?
  | .worker => session.worker.tasks.head?
  | .release => none

/-- A caller's step is a step of one thread among the others. -/
theorem exists_of_callerStep? {index : Nat}
    (stepped : session.callerStep? store index = some step) :
    ∃ before task rest after progress, session.callers = before ++ (task :: rest) :: after ∧
      session.task? (.caller index) = some task ∧
      task.step? (.outside session.isFinished) store session.intake rest = some progress ∧
      step = ⟨progress.store,
        { session with intake := progress.intake, callers := before ++ progress.tasks :: after },
        progress.notes⟩ := by
  unfold callerStep? at stepped
  split at stepped
  · rename_i task rest found
    obtain ⟨progress, made, rfl⟩ := Option.map_eq_some_iff.1 stepped
    obtain ⟨within, isThread⟩ := List.getElem?_eq_some_iff.1 found
    obtain ⟨before, after, isCallers, -, isSet⟩ := @List.exists_of_set _ _ progress.tasks _ within
    rw [isThread] at isCallers
    have isFirst : session.task? (.caller index) = some task := by
      rw [task?, found]
      rfl
    exact ⟨before, task, rest, after, progress, isCallers, isFirst, made, by rw [isSet]⟩
  · cases stepped

theorem config_move? (made : session.move? store move = some step) :
    step.session.intake.config = session.intake.config := by
  cases move with
  | arrive call =>
      cases made
      rfl
  | caller index =>
      obtain ⟨before, task, rest, after, progress, -, -, stepped, rfl⟩ :=
        exists_of_callerStep? made
      exact Task.config_step? stepped
  | worker =>
      cases workerStep_of_workerStep? made with
      | task isTasks stepped => exact Task.config_step? stepped
      | _ => rfl
  | release =>
      cases made
      unfold release
      split <;> rfl

/-- Moves leave the threads in order. -/
theorem InOrder.outlasts (inOrder : session.InOrder)
    (made : session.move? store move = some step) : step.session.InOrder := by
  cases move with
  | arrive call =>
      cases made
      refine ⟨inOrder.worker, ?_⟩
      intro tasks member
      rcases List.mem_append.1 member with earlier | new
      · exact inOrder.callers tasks earlier
      · rw [List.mem_singleton.1 new]
        exact .first trivial (List.forall_mem_nil _)
  | caller index =>
      obtain ⟨before, task, rest, after, progress, isCallers, -, stepped, rfl⟩ :=
        exists_of_callerStep? made
      have all := inOrder.callers
      simp only [isCallers, List.forall_mem_append, List.forall_mem_cons] at all
      refine ⟨inOrder.worker, ?_⟩
      simp only [List.forall_mem_append, List.forall_mem_cons]
      exact ⟨all.1, all.2.1.step stepped, all.2.2⟩
  | worker =>
      cases workerStep_of_workerStep? made with
      | @task task rest progress isTasks stepped =>
          have orderly : Task.Orderly (task :: rest) := isTasks ▸ inOrder.worker
          exact ⟨orderly.step stepped, inOrder.callers⟩
      | replies => exact ⟨.nil, inOrder.callers⟩
      | callsBack =>
          refine ⟨Task.orderly_of_planned ?_, inOrder.callers⟩
          exact fun task => Task.isPlanned_of_mem_completionTasks
      | runs => exact ⟨inOrder.worker, inOrder.callers⟩
      | takes => exact ⟨inOrder.worker, inOrder.callers⟩
  | release =>
      cases made
      unfold release
      split
      · rename_i origin rest isTasks
        have orderly : Task.Orderly (.await origin :: rest) := isTasks ▸ inOrder.worker
        exact ⟨.first trivial (orderly.planned_of_calm trivial), inOrder.callers⟩
      · exact inOrder

end Session

end BatchTree
