import BatchTree.Proofs.Scenes
import BatchTree.Session.Schedule

/-!
# The queue runs dry

A session that is shut down takes no more batches, but its worker goes on: nothing that it has
to do can hold it up any longer, so it comes to rest only when the queue is empty
(`Session.Course.drains`).
-/

namespace BatchTree

namespace Task

/-- A task that the worker may have to do: it waits for nothing, unless it holds the worker
until it is let go. -/
def IsOwn : Task → Prop
  | perform _ _ => True
  | report _ _ => True
  | await _ => True
  | _ => False

variable {task : Task} {rest : List Task} {place : Place} {store : Store} {intake : Intake}
  {origin : Origin} {call : Call} {progress : Progress}

theorem IsPlanned.isOwn (planned : task.IsPlanned) : task.IsOwn := by
  cases task with
  | perform => trivial
  | report => trivial
  | _ => cases planned

theorem own_completion {ticket : Nat} {label : String} {calls : List Call}
    (own : ∀ task ∈ rest, task.IsOwn) :
    ∀ task ∈ completionTasks ticket label 0 calls ++ rest, task.IsOwn := by
  intro task member
  rcases List.mem_append.1 member with called | later
  · exact (isPlanned_of_mem_completionTasks called).isOwn
  · exact own task later

/-- The worker's calls leave it with tasks of its own. -/
theorem Calls.own (calls : Calls .worker store intake rest origin call progress)
    (own : ∀ task ∈ rest, task.IsOwn) : ∀ task ∈ progress.tasks, task.IsOwn := by
  have reported : ∀ task ∈ .report origin .submitted :: rest, task.IsOwn :=
    List.forall_mem_cons.2 ⟨trivial, own⟩
  cases calls with
  | refused => exact own_completion reported
  | accepted => exact reported
  | refusedOutside outside => exact absurd rfl outside
  | handedIn outside => exact absurd rfl outside
  | joins outside => exact absurd rfl outside
  | holds => exact List.forall_mem_cons.2 ⟨trivial, own⟩
  | crashes => exact fun task member => own task (List.mem_filter.1 member).1
  | _ => exact own

theorem own_step? (own : ∀ other ∈ task :: rest, other.IsOwn)
    (stepped : task.step? .worker store intake rest = some progress) :
    ∀ other ∈ progress.tasks, other.IsOwn := by
  rw [List.forall_mem_cons] at own
  obtain ⟨first, others⟩ := own
  cases steps_of_step? stepped with
  | performs calls => exact calls.own others
  | released => exact others
  | reports => exact others
  | _ => cases first

/-- What holds the worker lets it go once the session is shut down. -/
theorem isSome_step?_of_closed (own : task.IsOwn) (closed : intake.closed = true) :
    (task.step? .worker store intake rest).isSome := by
  cases task with
  | perform => rfl
  | await =>
      rw [step?, if_pos closed]
      rfl
  | report => rfl
  | _ => cases own

theorem Calls.closed (calls : Calls place store intake rest origin call progress)
    (closed : intake.closed = true) : progress.intake.closed = true := by
  cases calls with
  | answers waitsNot plain stays => exact stays closed
  | joins => rfl
  | _ => exact closed

/-- A session that is shut down stays so. -/
theorem closed_step? (closed : intake.closed = true)
    (stepped : task.step? place store intake rest = some progress) :
    progress.intake.closed = true := by
  cases steps_of_step? stepped with
  | performs calls => exact calls.closed closed
  | _ => exact closed

end Task

namespace Session

variable {config : Config} {scenes : List Scene} {session : Session} {store : Store} {move : Move}
  {step : Step}

/-- All that the worker still has to do are tasks of its own. -/
def OwnWorker (session : Session) : Prop :=
  ∀ task ∈ session.worker.tasks, task.IsOwn

theorem OwnWorker.outlasts (own : session.OwnWorker) (made : session.move? store move = some step) :
    step.session.OwnWorker := by
  cases move with
  | arrive call =>
      cases made
      exact own
  | caller index =>
      obtain ⟨before, task, rest, after, progress, -, -, -, rfl⟩ := exists_of_callerStep? made
      exact own
  | worker =>
      cases workerStep_of_workerStep? made with
      | task isTasks stepped =>
          rw [OwnWorker, isTasks] at own
          exact Task.own_step? own stepped
      | replies => exact List.forall_mem_nil _
      | callsBack => exact fun task member => (Task.isPlanned_of_mem_completionTasks member).isOwn
      | runs => exact own
      | takes => exact own
  | release =>
      cases made
      unfold release
      split
      · rename_i origin rest isTasks
        rw [OwnWorker, isTasks, List.forall_mem_cons] at own
        exact List.forall_mem_cons.2 ⟨trivial, own.2⟩
      · exact own

theorem Course.ownWorker (course : Course config scenes session) : session.OwnWorker := by
  induction course with
  | opened success =>
      obtain ⟨-, rfl⟩ := openWith_eq_ok success
      exact List.forall_mem_nil _
  | move _ made ih => exact ih.outlasts made

/-- There is nothing left for the worker to do. -/
structure IsDrained (session : Session) : Prop where
  tasks_eq : session.worker.tasks = []
  taken_eq : session.worker.taken = none
  finished_eq : session.worker.finished = none
  queue_eq : session.intake.queue = []

/-- A worker that is not held stops only when there is nothing left to do. -/
theorem OwnWorker.isDrained_of_stopped (own : session.OwnWorker)
    (closed : session.intake.closed = true) (stopped : session.workerStep? store = none) :
    session.IsDrained := by
  unfold workerStep? at stopped
  split at stopped
  · -- A task of its own does not stop it.
    rename_i task rest isTasks
    rw [OwnWorker, isTasks, List.forall_mem_cons] at own
    rw [Option.map_eq_none_iff] at stopped
    have goesOn : (task.step? .worker store session.intake rest).isSome :=
      Task.isSome_step?_of_closed own.1 closed
    rw [stopped] at goesOn
    cases goesOn
  · rename_i isTasks
    split at stopped
    · cases stopped
    · cases stopped
    · cases stopped
    · rename_i isFinished isTaken isQueue
      exact ⟨isTasks, isTaken, isFinished, isQueue⟩

theorem closed_workerStep? (closed : session.intake.closed = true)
    (stepped : session.workerStep? store = some step) : step.session.intake.closed = true := by
  cases workerStep_of_workerStep? stepped with
  | task isTasks made => exact Task.closed_step? closed made
  | _ => exact closed

theorem closed_settle (closed : session.intake.closed = true) :
    (session.settle store).session.intake.closed = true := by
  fun_induction settle store session with
  | case1 => exact closed
  | case2 store session step stepped lower ih => exact ih (closed_workerStep? closed stepped)

/-- The worker coming to rest is a course of its own moves. -/
theorem Course.settles (course : Course config scenes session) (store : Store) :
    ∃ others, (∀ scene ∈ others, scene.move matches .worker) ∧
      Course config (scenes ++ others) (session.settle store).session := by
  fun_induction settle store session generalizing scenes with
  | case1 => exact ⟨[], List.forall_mem_nil _, by rwa [List.append_nil]⟩
  | case2 store session step stepped lower ih =>
      have made : session.move? store .worker = some step := stepped
      obtain ⟨others, byWorker, final⟩ := ih (course.move made)
      refine ⟨⟨session, store, .worker, step⟩ :: others, List.forall_mem_cons.2 ⟨rfl, byWorker⟩, ?_⟩
      rw [← List.singleton_append, ← List.append_assoc]
      exact final

/-- A worker that is left to itself after the shutdown runs all that has joined the queue, in
this order. -/
theorem Course.drains (course : Course config scenes session)
    (closed : session.intake.closed = true) (store : Store) :
    ∃ others, (∀ scene ∈ others, scene.move matches .worker) ∧
      Course config (scenes ++ others) (session.settle store).session ∧
      (session.settle store).session.IsDrained ∧
      Desk.served (Scene.history (scenes ++ others)) =
        Note.entries (Scene.history (scenes ++ others)) := by
  obtain ⟨others, byWorker, final⟩ := course.settles store
  have drained : (session.settle store).session.IsDrained :=
    final.ownWorker.isDrained_of_stopped (closed_settle closed) (workerStep?_settle store session)
  have order := final.inLine.order
  rw [desk, Intake.desk, Desk.line, drained.taken_eq, drained.queue_eq, Option.toList_none,
    List.append_nil, List.map_nil, List.append_nil] at order
  exact ⟨others, byWorker, final, drained, order⟩

end Session

end BatchTree
