import BatchTree.Proofs.Threads
import Mathlib.Data.Multiset.AddSub
import Mathlib.Data.Multiset.Filter
import Mathlib.Data.Multiset.MapFold

/-!
# Turns

A session moves in many ways, but there are few things that can happen to a batch on its way
from the call that hands it in to its completion.  `Desk` shows where the batches of a session
are, `Turn` lists what a move can do to them, and `Session.turn_of_move?` says that this is
all.  Everything proved of runs goes through turns.
-/

namespace BatchTree

/-- Where the batches of a session are. -/
structure Desk where
  /-- Number of tickets drawn. -/
  tickets : Nat
  /-- Those whose callers wait for room in the queue. -/
  door : Multiset Submission
  queue : List Submission
  /-- The one that was taken from the queue and is not yet run. -/
  taken : Option Submission
  /-- The one that was run and is not yet completed. -/
  finished : Option (Submission × Response)
  /-- The responses that have not been picked up. -/
  replies : List (Nat × Response)
  /-- Those who wait for a response. -/
  awaiting : Multiset Waiter

/-- The desk of an intake and a worker, if the threads still have these tasks to do. -/
def Intake.desk (intake : Intake) (tasks : List Task) (worker : Worker) : Desk where
  tickets := intake.tickets
  door := tasks.filterMap Task.submission?
  queue := intake.queue
  taken := worker.taken
  finished := worker.finished
  replies := intake.replies
  awaiting := tasks.filterMap Task.waiter?

/-- What all threads of a session still have to do. -/
def Session.tasks (session : Session) : List Task :=
  session.worker.tasks ++ session.callers.flatten

def Session.desk (session : Session) : Desk :=
  session.intake.desk session.tasks session.worker

/-- The notes tell of nothing but answers, and these of no batch. -/
def Note.Silent (notes : List Note) : Prop :=
  ∀ note ∈ notes, ∃ origin answer, note = .answered origin answer ∧ answer.IsPlain

/-- The codes with which a batch may be turned away: it is too long, or else the session takes
none or has no room for it. -/
def Intake.Refuses (intake : Intake) (batch : Batch) (status : Status) : Prop :=
  status = .unavailable ∨ status = .badArguments ∧ intake.config.maxBatchSize < batch.length

/-- What one move can do to the batches on a desk, and what is noted of it.  The thread that
moves begins with the task, if one does. -/
inductive Turn (intake : Intake) (store : Store) (task? : Option Task) (desk : Desk) :
    Store → Desk → List Note → Prop where
  /-- Nothing happens to any batch. -/
  | quiet {notes : List Note} (silent : Note.Silent notes) :
      Turn intake store task? desk store desk notes
  /-- Somebody picks up the response that was waited for. -/
  | received {ticket : Nat} {origin : Origin} {request : Request} {response : Response}
      {awaiting : Multiset Waiter} (waits : desk.awaiting = ⟨ticket, origin, request⟩ ::ₘ awaiting)
      (ready : desk.replies.lookup ticket = some response) :
      Turn intake store task? desk store
        { desk with
          awaiting := awaiting
          replies := desk.replies.filter fun reply => reply.1 ≠ ticket }
        [.received ticket, .answered origin (request.answer response)]
  /-- A batch for which nobody waits is turned away, and completed on the spot. -/
  | refused {batch : Batch} {label : String} {status : Status}
      (refusal : intake.Refuses batch status) :
      Turn intake store task? desk store { desk with tickets := desk.tickets + 1 }
        [.submitted desk.tickets batch,
          .completed desk.tickets (some label) true (.rejected batch.length status)]
  /-- A batch that a caller waits for is turned away, and its response is there at once. -/
  | refusedOutside {origin : Origin} {request : Request} {status : Status}
      (asks : task? = some (.perform origin (.submit request)))
      (refusal : intake.Refuses request.operations status) :
      Turn intake store task? desk store
        { desk with
          tickets := desk.tickets + 1
          replies :=
            desk.replies ++ [(desk.tickets, .rejected request.operations.length status)]
          awaiting := ⟨desk.tickets, origin, request⟩ ::ₘ desk.awaiting }
        [.submitted desk.tickets request.operations, .asked desk.tickets origin,
          .completed desk.tickets none true (.rejected request.operations.length status)]
  /-- A batch is put into the queue as it is handed in. -/
  | accepted {batch : Batch} {label : String} {script : List Call}
      (admitted : intake.refusal? batch = none) :
      Turn intake store task? desk store
        { desk with
          tickets := desk.tickets + 1
          queue := desk.queue ++ [.of desk.tickets batch (.calls label script)] }
        [.submitted desk.tickets batch, .queued desk.tickets]
  /-- A batch is handed in by a caller who waits, first of all for room in the queue. -/
  | handedIn {origin : Origin} {request : Request}
      (asks : task? = some (.perform origin (.submit request)))
      (admitted : intake.refusal? request.operations = none) :
      Turn intake store task? desk store
        { desk with
          tickets := desk.tickets + 1
          door := .of desk.tickets request.operations .reply ::ₘ desk.door
          awaiting := ⟨desk.tickets, origin, request⟩ ::ₘ desk.awaiting }
        [.submitted desk.tickets request.operations, .asked desk.tickets origin]
  /-- There is room, and a caller puts its batch into the queue. -/
  | entered {submission : Submission} {door : Multiset Submission}
      (waits : desk.door = submission ::ₘ door) :
      Turn intake store task? desk store
        { desk with door := door, queue := desk.queue ++ [submission] }
        [.queued submission.ticket]
  /-- The worker hands in a batch that is turned away. -/
  | refusedInline {origin : Origin} {request : Request} {status : Status}
      (asks : task? = some (.perform origin (.submit request)))
      (refusal : intake.Refuses request.operations status) :
      Turn intake store task? desk store { desk with tickets := desk.tickets + 1 }
        [.submitted desk.tickets request.operations, .asked desk.tickets origin,
          .completed desk.tickets none true (.rejected request.operations.length status),
          .received desk.tickets,
          .answered origin (request.answer (.rejected request.operations.length status))]
  /-- The worker runs a batch at the moment in which one of its completions hands it in. -/
  | ranInline {origin : Origin} {request : Request} {after : Store} {response : Response}
      (asks : task? = some (.perform origin (.submit request)))
      (admitted : intake.inlineRefusal? request.operations = none)
      (ran : intake.run store request.operations = (after, response)) :
      Turn intake store task? desk after { desk with tickets := desk.tickets + 1 }
        [.submitted desk.tickets request.operations, .asked desk.tickets origin,
          .ran desk.tickets response, .completed desk.tickets none true response,
          .received desk.tickets, .answered origin (request.answer response)]
  /-- The worker takes the batch that has waited longest. -/
  | took {submission : Submission} {waiting : List Submission}
      (isQueue : desk.queue = submission :: waiting) (idle : desk.taken = none) :
      Turn intake store task? desk store
        { desk with queue := waiting, taken := some submission } []
  /-- The worker runs the batch that it has taken. -/
  | ranNext {submission : Submission} {after : Store} {response : Response}
      (isTaken : desk.taken = some submission) (completed : desk.finished = none)
      (ran : intake.run store submission.batch = (after, response)) :
      Turn intake store task? desk after
        { desk with taken := none, finished := some (submission, response) }
        [.ran submission.ticket response]
  /-- The response to a batch is left for the caller who waits for it. -/
  | replied {submission : Submission} {response : Response}
      (isFinished : desk.finished = some (submission, response))
      (isReply : submission.callback = .reply) :
      Turn intake store task? desk store
        { desk with
          finished := none
          replies := desk.replies ++ [(submission.ticket, response)] }
        [.completed submission.ticket none false response]
  /-- The response to a batch is reported, and the calls of its completion are about to be
  made. -/
  | calledBack {submission : Submission} {response : Response} {label : String}
      {script : List Call} (isFinished : desk.finished = some (submission, response))
      (isCalls : submission.callback = .calls label script) :
      Turn intake store task? desk store { desk with finished := none }
        [.completed submission.ticket (some label) false response]

theorem Intake.Refuses.ne_ok {intake : Intake} {batch : Batch} {status : Status}
    (refusal : intake.Refuses batch status) : status ≠ .ok := by
  rcases refusal with rfl | ⟨rfl, -⟩
  · exact Status.noConfusion
  · exact Status.noConfusion

theorem Intake.refuses_of_refusal? {intake : Intake} {batch : Batch} {status : Status}
    (refusal : intake.refusal? batch = some status) : intake.Refuses batch status := by
  unfold refusal? precheck? at refusal
  unfold Refuses
  grind

theorem Intake.refuses_of_inlineRefusal? {intake : Intake} {batch : Batch} {status : Status}
    (refusal : intake.inlineRefusal? batch = some status) : intake.Refuses batch status := by
  unfold inlineRefusal? precheck? at refusal
  unfold Refuses
  grind

theorem Note.silent_nil : Silent [] := by
  intro note member
  cases member

theorem Note.silent_singleton {answer : Answer} (origin : Origin) (plain : answer.IsPlain) :
    Silent [.answered origin answer] := by
  intro note member
  exact ⟨origin, answer, List.mem_singleton.1 member, plain⟩

namespace Intake

variable {intake : Intake} {worker : Worker} {before left right after : List Task}

/-- Tasks that neither wait for room nor for a response do not show on the desk. -/
theorem desk_congr (sameDoor : left.filterMap Task.submission? = right.filterMap Task.submission?)
    (sameWaiters : left.filterMap Task.waiter? = right.filterMap Task.waiter?) :
    intake.desk (before ++ left ++ after) worker =
      intake.desk (before ++ right ++ after) worker := by
  simp only [desk, List.filterMap_append, sameDoor, sameWaiters]

theorem desk_cons (task : Task) (noSubmission : task.submission? = none)
    (noWaiter : task.waiter? = none) :
    intake.desk (before ++ (task :: left) ++ after) worker =
      intake.desk (before ++ left ++ after) worker :=
  desk_congr (List.filterMap_cons_none noSubmission) (List.filterMap_cons_none noWaiter)

theorem desk_enqueue (submission : Submission) :
    intake.desk (before ++ (.enqueue submission :: left) ++ after) worker =
      { intake.desk (before ++ left ++ after) worker with
        door := submission ::ₘ (intake.desk (before ++ left ++ after) worker).door } := by
  simp [desk, List.filterMap_cons, Task.submission?, Task.waiter?]

theorem desk_receive (ticket : Nat) (origin : Origin) (request : Request) :
    intake.desk (before ++ (.receive ticket origin request :: left) ++ after) worker =
      { intake.desk (before ++ left ++ after) worker with
        awaiting :=
          ⟨ticket, origin, request⟩ ::ₘ
            (intake.desk (before ++ left ++ after) worker).awaiting } := by
  simp [desk, List.filterMap_cons, Task.submission?, Task.waiter?]

end Intake

/-! ## What a step does to the desk -/

namespace Task

variable {task : Task} {rest tasks : List Task}

section Turn

variable {place : Place} {store : Store} {intake : Intake} {origin : Origin} {call : Call}
  {task? : Option Task} (before after : List Task) (worker : Worker)

/-- A plain answer is all that comes of a task. -/
theorem turn_of_answer {answer : Answer} (plain : answer.IsPlain) :
    Turn intake store task? (intake.desk (before ++ rest ++ after) worker) store
      (intake.desk (before ++ rest ++ after) worker) [.answered origin answer] :=
  .quiet (Note.silent_singleton origin plain)

theorem desk_completion (ticket : Nat) (label : String) (calls : List Call) (answer : Answer) :
    intake.desk
        (before ++ (completionTasks ticket label 0 calls ++ .report origin answer :: rest) ++ after)
        worker =
      intake.desk (before ++ rest ++ after) worker := by
  have called : ∀ task ∈ completionTasks ticket label 0 calls, task.IsPlanned :=
    fun task => isPlanned_of_mem_completionTasks
  apply Intake.desk_congr
  · rw [List.filterMap_append, submissions_of_planned called]
    rfl
  · rw [List.filterMap_append, waiters_of_planned called]
    rfl

/-- A call takes one turn. -/
theorem Calls.turn {progress : Progress}
    (calls : Calls place store intake rest origin call progress)
    (planned : ∀ other ∈ rest, other.IsPlanned) :
    Turn intake store (some (.perform origin call)) (intake.desk (before ++ rest ++ after) worker)
      progress.store (progress.intake.desk (before ++ progress.tasks ++ after) worker)
      progress.notes := by
  cases calls with
  | refused refusal =>
      rw [desk_completion]
      exact .refused (refusal.elim Intake.refuses_of_refusal? .inl)
  | accepted admitted =>
      rw [Intake.desk_cons (.report origin .submitted) rfl rfl]
      exact .accepted admitted
  | refusedOutside outside refusal =>
      rw [Intake.desk_receive]
      exact .refusedOutside rfl (Intake.refuses_of_refusal? refusal)
  | handedIn outside admitted =>
      rw [Intake.desk_enqueue, Intake.desk_receive]
      exact .handedIn rfl admitted
  | refusedInline onWorker refusal =>
      exact .refusedInline rfl (Intake.refuses_of_inlineRefusal? refusal)
  | ranInline onWorker admitted ran => exact .ranInline rfl admitted ran
  | answers waitsNot plain => exact .quiet (Note.silent_singleton origin plain)
  | joins =>
      rw [Intake.desk_cons (.join origin) rfl rfl]
      exact .quiet Note.silent_nil
  | holds =>
      rw [Intake.desk_cons (.await origin) rfl rfl]
      exact .quiet Note.silent_nil
  | crashes =>
      have kept : ∀ other ∈ rest.filter (fun task =>
          decide (task.ticket? = none ∨ task.ticket? ≠ origin.ticket?)), other.IsPlanned :=
        fun other member => planned other (List.mem_filter.1 member).1
      have sameSubmissions :=
        (submissions_of_planned kept).trans (submissions_of_planned planned).symm
      have sameWaiters := (waiters_of_planned kept).trans (waiters_of_planned planned).symm
      rw [Intake.desk_congr sameSubmissions sameWaiters]
      exact .quiet Note.silent_nil

/-- A step of an orderly thread takes one turn. -/
theorem turn_of_step? {progress : Progress} (orderly : Orderly (task :: rest))
    (stepped : task.step? place store intake rest = some progress) :
    Turn intake store (some task) (intake.desk (before ++ (task :: rest) ++ after) worker)
      progress.store (progress.intake.desk (before ++ progress.tasks ++ after) worker)
      progress.notes := by
  cases steps_of_step? stepped with
  | @performs origin call _ calls =>
      rw [Intake.desk_cons (.perform origin call) rfl rfl]
      exact calls.turn before after worker (orderly.planned_of_calm trivial)
  | enters room =>
      rw [Intake.desk_enqueue]
      exact .entered rfl
  | receives ready =>
      rw [Intake.desk_receive]
      exact .received rfl ready
  | @released origin closed =>
      rw [Intake.desk_cons (.await origin) rfl rfl]
      exact turn_of_answer before after worker trivial
  | @joins origin ended =>
      rw [Intake.desk_cons (.join origin) rfl rfl]
      exact turn_of_answer before after worker trivial
  | @reports origin answer =>
      cases orderly with
      | first plain =>
          rw [Intake.desk_cons (.report origin answer) rfl rfl]
          exact turn_of_answer before after worker plain

end Turn

end Task

/-! ## Moves -/

namespace Session

variable {store : Store} {session : Session} {move : Move} {step : Step}

/-- The desk of a session whose worker has no task to do. -/
theorem desk_of_resting (resting : session.worker.tasks = []) :
    session.desk = session.intake.desk session.callers.flatten session.worker := by
  rw [desk, tasks, resting, List.nil_append]

/-- Every step of the worker takes one turn. -/
theorem turn_of_workerStep (inOrder : session.InOrder) (stepped : session.WorkerStep store step) :
    Turn session.intake store (session.task? .worker) session.desk step.store step.session.desk
      step.notes := by
  cases stepped with
  | @task task rest progress isTasks stepped =>
      have orderly : Task.Orderly (task :: rest) := isTasks ▸ inOrder.worker
      have turn := Task.turn_of_step? [] session.callers.flatten session.worker orderly stepped
      simpa [desk, tasks, task?, isTasks, Intake.desk] using turn
  | replies free isFinished isReply =>
      rw [desk_of_resting free]
      exact .replied isFinished isReply
  | @callsBack submission response label script free isFinished isCalls =>
      have called : ∀ task ∈ completionTasks submission.ticket label 0 script, task.IsPlanned :=
        fun task => Task.isPlanned_of_mem_completionTasks
      rw [desk_of_resting free]
      simp only [desk, tasks, Intake.desk, List.filterMap_append,
        Task.submissions_of_planned called, Task.waiters_of_planned called, List.nil_append]
      exact .calledBack isFinished isCalls
  | runs free completed isTaken ran =>
      simp only [desk, tasks, free, List.nil_append]
      exact .ranNext isTaken completed ran
  | takes free completed idle isQueue =>
      simp only [desk, tasks, free, List.nil_append]
      exact .took isQueue idle

/-- Every move of a session takes one turn. -/
theorem turn_of_move? (inOrder : session.InOrder) (made : session.move? store move = some step) :
    Turn session.intake store (session.task? move) session.desk step.store step.session.desk
      step.notes := by
  cases move with
  | arrive call =>
      cases made
      have same : (session.arrive call).desk = session.desk := by
        simp [desk, tasks, arrive, Intake.desk, List.filterMap_cons, Task.submission?,
          Task.waiter?]
      rw [same]
      exact .quiet Note.silent_nil
  | caller index =>
      obtain ⟨before, task, rest, after, progress, isCallers, isFirst, stepped, rfl⟩ :=
        exists_of_callerStep? made
      have orderly : Task.Orderly (task :: rest) := by
        apply inOrder.callers
        rw [isCallers]
        exact List.mem_append_right before List.mem_cons_self
      have turn := Task.turn_of_step? (session.worker.tasks ++ before.flatten) after.flatten
        session.worker orderly stepped
      rw [isFirst]
      simpa [desk, tasks, isCallers] using turn
  | worker => exact turn_of_workerStep inOrder (workerStep_of_workerStep? made)
  | release =>
      cases made
      have same : session.release.desk = session.desk := by
        unfold release
        split
        · rename_i origin rest isTasks
          simp [desk, tasks, isTasks, Intake.desk, List.filterMap_cons, Task.submission?,
            Task.waiter?]
        · rfl
      rw [same]
      exact .quiet Note.silent_nil

end Session

end BatchTree
