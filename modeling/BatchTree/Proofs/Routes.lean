import BatchTree.Proofs.Drain

/-!
# The two routes of a batch that is waited for

A caller outside puts such a batch into the queue and waits for the worker.  A completion that
runs on the worker has it run on the spot.  The gate is asked on either route, but not in the
same order: outside the size of a batch is found fault with first, and on the worker that the
session was shut down.

If the session has nothing else to do, both routes end with the same response and the same
store, but for a batch that is too large for a session that was shut down
(`Session.Run.routes_agree`).
-/

namespace BatchTree

namespace Intake

/-- Two intakes with the same settings and the same flags. -/
structure SameGate (left right : Intake) : Prop where
  config_eq : left.config = right.config
  authoritative_eq : left.authoritative = right.authoritative
  closed_eq : left.closed = right.closed

/-- The session was shut down, and the batch is too large for it anyway. -/
def IsDoublyRefused (intake : Intake) (batch : Batch) : Prop :=
  intake.closed = true ∧ intake.config.maxBatchSize < batch.length

/-- What comes of a batch once the gate has been asked: it is turned away with a code, or it
is run. -/
def conclude (intake : Intake) (store : Store) (batch : Batch) :
    (refusal? : Option Status) → Store × Response
  | some status => (store, .rejected batch.length status)
  | none => intake.run store batch

variable {intake left right : Intake} {store : Store} {batch : Batch}

theorem SameGate.inlineRefusal?_eq (same : left.SameGate right) (batch : Batch) :
    left.inlineRefusal? batch = right.inlineRefusal? batch := by
  rw [inlineRefusal?, precheck?, same.config_eq, same.authoritative_eq, same.closed_eq]
  rfl

theorem SameGate.run_eq (same : left.SameGate right) (store : Store) (batch : Batch) :
    left.run store batch = right.run store batch := by
  rw [run, same.config_eq, same.authoritative_eq]
  rfl

theorem SameGate.conclude_eq (same : left.SameGate right) (store : Store) (batch : Batch)
    (refusal? : Option Status) :
    left.conclude store batch refusal? = right.conclude store batch refusal? := by
  cases refusal? with
  | some status => rfl
  | none => exact same.run_eq store batch

/-- Where only one thing is wrong with a batch, the order of the questions does not matter. -/
theorem inlineRefusal?_eq_refusal? (once : ¬intake.IsDoublyRefused batch) :
    intake.inlineRefusal? batch = intake.refusal? batch := by
  unfold IsDoublyRefused at once
  unfold inlineRefusal? refusal? precheck?
  grind

theorem inlineRefusal?_of_isDoublyRefused (twice : intake.IsDoublyRefused batch) :
    intake.inlineRefusal? batch = some .unavailable := by
  rw [inlineRefusal?, if_pos twice.1]

theorem refusal?_of_isDoublyRefused (twice : intake.IsDoublyRefused batch) :
    intake.refusal? batch = some .badArguments := by
  rw [refusal?, precheck?, if_pos twice.2]

/-- A response that is picked up where it was left leaves no trace. -/
theorem pickUp_leave {ticket : Nat} (fresh : ∀ reply ∈ intake.replies, reply.1 ≠ ticket)
    (response : Response) : (intake.leave ticket response).pickUp ticket = intake := by
  have others : intake.replies.filter (fun reply => reply.1 ≠ ticket) = intake.replies :=
    List.filter_eq_self.2 fun reply member => decide_eq_true (fresh reply member)
  simp only [pickUp, leave, List.filter_append, others]
  simp

/-- The two orders of the questions come to the same, unless both have an objection. -/
theorem conclude_eq_iff :
    intake.conclude store batch (intake.inlineRefusal? batch) =
        intake.conclude store batch (intake.refusal? batch) ↔
      ¬intake.IsDoublyRefused batch := by
  constructor
  · intro same twice
    rw [inlineRefusal?_of_isDoublyRefused twice, refusal?_of_isDoublyRefused twice] at same
    have outcomes := congrArg (fun concluded => concluded.2.outcome) same
    cases outcomes
  · intro once
    rw [inlineRefusal?_eq_refusal? once]

end Intake

/-- The note says of a request that it was answered with this response, or nothing about it. -/
def Note.Tells (request : Request) (response : Response) : Note → Prop
  | ran _ other => other = response
  | completed _ _ _ other => other = response
  | answered origin answer => origin = .caller ∧ answer = request.answer response
  | _ => True

namespace Session

/-- Moves of the last caller and of the worker alone. -/
def Move.IsOf (callers : List (List Task)) (move : Move) : Prop :=
  move = .caller callers.length ∨ move = .worker

/-- The worker makes the request of a completion its next step, and answers it there. -/
def AnswersInline (session : Session) (store : Store) (origin : Origin) (request : Request)
    (after : Store) (response : Response) : Prop :=
  ∃ step, session.workerStep? store = some step ∧ step.store = after ∧
    Note.completions step.notes = [(session.intake.tickets, response)] ∧
    .answered origin (request.answer response) ∈ step.notes

/-- A new caller makes the request, and only this caller and the worker move. -/
structure AnswersOutside (session : Session) (store : Store) (request : Request) (after : Store)
    (response : Response) : Prop where
  /-- However they take turns, nothing else is said of the request, and with the answer the
  store is as it is to be. -/
  only : ∀ moves : List Move, (∀ move ∈ moves, move.IsOf session.callers) →
    let played := (session.arrive (.submit request)).play store moves
    (∀ note ∈ Moment.history played.1, note.Tells request response) ∧
      (.answered .caller (request.answer response) ∈ Moment.history played.1 →
        played.2.1 = after)
  /-- However far they have come, they come to the answer if they go on. -/
  ends : ∀ moves : List Move, (∀ move ∈ moves, move.IsOf session.callers) →
    ∃ others : List Move, (∀ move ∈ others, move.IsOf session.callers) ∧
      .answered .caller (request.answer response) ∈
        Moment.history ((session.arrive (.submit request)).play store (moves ++ others)).1

theorem answersInline {session : Session} {origin : Origin} {request : Request}
    {rest : List Task} (isNext : session.worker.tasks = .perform origin (.submit request) :: rest)
    (store : Store) :
    let concluded := session.intake.conclude store request.operations
      (session.intake.inlineRefusal? request.operations)
    session.AnswersInline store origin request concluded.1 concluded.2 := by
  unfold AnswersInline
  rw [workerStep?, isNext]
  simp only [Task.step?, Task.makeCall, Task.submitOnWorker, Option.map_some]
  cases session.intake.inlineRefusal? request.operations with
  | some status =>
      exact ⟨_, rfl, rfl, rfl, List.mem_of_mem_getLast? rfl⟩
  | none =>
      exact ⟨_, rfl, rfl, rfl, List.mem_of_mem_getLast? rfl⟩

section Outside

variable {intake : Intake} {callers : List (List Task)} {store before : Store} {request : Request}
  {session : Session} {step : Step} {left : Nat}

/-- The submission that a request comes to. -/
def submissionOf (intake : Intake) (request : Request) : Submission :=
  .of intake.tickets request.operations .reply

/-- What a caller outside is to be told of a request, with the store by then. -/
def conclusion (intake : Intake) (store : Store) (request : Request) : Store × Response :=
  intake.conclude store request.operations (intake.refusal? request.operations)

/-- How far a request has come that the last caller makes, the worker being idle before: at most
so many steps are left. -/
inductive Stage (intake : Intake) (callers : List (List Task)) (store : Store)
    (request : Request) : Nat → Store → Session → Prop where
  | arrived :
      Stage intake callers store request 6 store
        ⟨intake, {}, callers ++ [[.perform .caller (.submit request)]]⟩
  | admitted (isAdmitted : intake.refusal? request.operations = none) :
      Stage intake callers store request 5 store
        ⟨intake.issue, {},
          callers ++ [[.enqueue (submissionOf intake request),
            .receive intake.tickets .caller request]]⟩
  | queued (isAdmitted : intake.refusal? request.operations = none) :
      Stage intake callers store request 4 store
        ⟨intake.issue.enqueue (submissionOf intake request), {},
          callers ++ [[.receive intake.tickets .caller request]]⟩
  | taken (isAdmitted : intake.refusal? request.operations = none) :
      Stage intake callers store request 3 store
        ⟨intake.issue, { taken := some (submissionOf intake request) },
          callers ++ [[.receive intake.tickets .caller request]]⟩
  | ran (isAdmitted : intake.refusal? request.operations = none) :
      Stage intake callers store request 2 (conclusion intake store request).1
        ⟨intake.issue,
          { finished := some (submissionOf intake request, (conclusion intake store request).2) },
          callers ++ [[.receive intake.tickets .caller request]]⟩
  | replied :
      Stage intake callers store request 1 (conclusion intake store request).1
        ⟨intake.issue.leave intake.tickets (conclusion intake store request).2, {},
          callers ++ [[.receive intake.tickets .caller request]]⟩
  | answered :
      Stage intake callers store request 0 (conclusion intake store request).1
        ⟨intake.issue, {}, callers ++ [[]]⟩

/-- Of the two threads only one can go on, and its step takes the request to a later stage. -/
structure Advances (intake : Intake) (callers : List (List Task)) (store : Store)
    (request : Request) (before : Store) (session : Session) (mover : Move) (step : Step)
    (left : Nat) : Prop where
  ofThese : mover.IsOf callers
  made : session.move? before mover = some step
  alone : ∀ move : Move, move.IsOf callers → move ≠ mover → session.move? before move = none
  stage : Stage intake callers store request left step.store step.session
  tells : ∀ note ∈ step.notes, note.Tells request (conclusion intake store request).2
  answered_iff : .answered .caller (request.answer (conclusion intake store request).2) ∈
    step.notes ↔ left = 0

/-- What a request needs to find its way: nobody waits before it, there is room for one batch,
and its ticket is new. -/
structure IsClear (intake : Intake) : Prop where
  queue_eq : intake.queue = []
  room : 0 < intake.config.queueDepth
  fresh : ∀ reply ∈ intake.replies, reply.1 ≠ intake.tickets

/-- The step of the last caller. -/
theorem move?_last (store : Store) (intake : Intake) (worker : Worker)
    (callers : List (List Task)) (task : Task) (rest : List Task) :
    ∃ finished, move? store ⟨intake, worker, callers ++ [task :: rest]⟩ (.caller callers.length) =
      (task.step? (.outside finished) store intake rest).map fun progress =>
        { store := progress.store
          session := ⟨progress.intake, worker, callers ++ [progress.tasks]⟩
          notes := progress.notes } := by
  refine ⟨isFinished ⟨intake, worker, callers ++ [task :: rest]⟩, ?_⟩
  simp [move?, callerStep?]

theorem move?_last_of_done (store : Store) (intake : Intake) (worker : Worker)
    (callers : List (List Task)) :
    move? store ⟨intake, worker, callers ++ [[]]⟩ (.caller callers.length) = none := by
  simp [move?, callerStep?]

/-- An idle worker with an empty queue has no step to make. -/
theorem move?_worker_of_idle (store : Store) (callers : List (List Task))
    (emptyQueue : intake.queue = []) : move? store ⟨intake, {}, callers⟩ .worker = none := by
  simp [move?, workerStep?, emptyQueue]

/-- Nothing is there to be received under a ticket to which nothing was left. -/
theorem move?_last_of_waiting (store : Store) (worker : Worker) (callers : List (List Task))
    (request : Request) {ticket : Nat} (unanswered : ∀ reply ∈ intake.replies, reply.1 ≠ ticket) :
    move? store ⟨intake, worker, callers ++ [[.receive ticket .caller request]]⟩
      (.caller callers.length) = none := by
  obtain ⟨finished, stepped⟩ := move?_last store intake worker callers
    (.receive ticket .caller request) []
  have missing : intake.replies.lookup ticket = none := by
    rw [List.lookup_eq_none_iff]
    intro reply member
    simpa using (unanswered reply member).symm
  rw [stepped, Task.step?, missing]
  rfl

theorem alone_of_idle (idle : session.move? before .worker = none) (move : Move)
    (ofThese : move.IsOf callers) (other : move ≠ .caller callers.length) :
    session.move? before move = none := by
  rcases ofThese with rfl | rfl
  · exact absurd rfl other
  · exact idle

theorem alone_of_waiting (waiting : session.move? before (.caller callers.length) = none)
    (move : Move) (ofThese : move.IsOf callers) (other : move ≠ .worker) :
    session.move? before move = none := by
  rcases ofThese with rfl | rfl
  · exact waiting
  · exact absurd rfl other

section Advances

variable (callers store)

theorem advances_of_refused (clear : IsClear intake) {status : Status}
    (isRefused : intake.refusal? request.operations = some status) :
    ∃ mover step, Advances intake callers store request store
      ⟨intake, {}, callers ++ [[.perform .caller (.submit request)]]⟩ mover step 1 := by
  have isConclusion : conclusion intake store request =
      (store, .rejected request.operations.length status) := by
    rw [conclusion, isRefused, Intake.conclude]
  obtain ⟨finished, stepped⟩ := move?_last store intake {} callers
    (.perform .caller (.submit request)) []
  simp only [Task.step?, Task.makeCall,
    Task.submitAndWait_of_refusal store intake [] .caller isRefused, Option.map_some] at stepped
  refine ⟨_, _, .inl rfl, stepped, alone_of_idle (move?_worker_of_idle _ _ clear.queue_eq),
    ?_, ?_, ?_⟩
  · have next : Stage intake callers store request 1 (conclusion intake store request).1
        ⟨intake.issue.leave intake.tickets (conclusion intake store request).2, {},
          callers ++ [[.receive intake.tickets .caller request]]⟩ := .replied
    rwa [isConclusion] at next
  · simp [isConclusion, Note.Tells]
  · simp

theorem advances_of_arrived (clear : IsClear intake)
    (isAdmitted : intake.refusal? request.operations = none) :
    ∃ mover step, Advances intake callers store request store
      ⟨intake, {}, callers ++ [[.perform .caller (.submit request)]]⟩ mover step 5 := by
  obtain ⟨finished, stepped⟩ := move?_last store intake {} callers
    (.perform .caller (.submit request)) []
  simp only [Task.step?, Task.makeCall,
    Task.submitAndWait_of_admitted store intake [] .caller isAdmitted, Option.map_some] at stepped
  refine ⟨_, _, .inl rfl, stepped, alone_of_idle (move?_worker_of_idle _ _ clear.queue_eq),
    .admitted isAdmitted, ?_, ?_⟩
  · simp [Note.Tells]
  · simp

theorem advances_of_admitted (clear : IsClear intake)
    (isAdmitted : intake.refusal? request.operations = none) :
    ∃ mover step, Advances intake callers store request store
      ⟨intake.issue, {}, callers ++ [[.enqueue (submissionOf intake request),
        .receive intake.tickets .caller request]]⟩ mover step 4 := by
  have hasRoom : intake.issue.isFull = false := by
    rw [Intake.isFull, Intake.issue, clear.queue_eq]
    exact decide_eq_false (Nat.not_le_of_gt clear.room)
  obtain ⟨finished, stepped⟩ := move?_last store intake.issue {} callers
    (.enqueue (submissionOf intake request)) [.receive intake.tickets .caller request]
  simp only [Task.step?, hasRoom, Bool.false_eq_true, if_false, Option.map_some] at stepped
  refine ⟨_, _, .inl rfl, stepped, alone_of_idle (move?_worker_of_idle _ _ clear.queue_eq),
    .queued isAdmitted, ?_, ?_⟩
  · simp [Note.Tells]
  · simp

theorem advances_of_queued (clear : IsClear intake)
    (isAdmitted : intake.refusal? request.operations = none) :
    ∃ mover step, Advances intake callers store request store
      ⟨intake.issue.enqueue (submissionOf intake request), {},
        callers ++ [[.receive intake.tickets .caller request]]⟩ mover step 3 := by
  have isQueue : (intake.issue.enqueue (submissionOf intake request)).queue =
      [submissionOf intake request] := by
    rw [Intake.enqueue, Intake.issue, clear.queue_eq, List.nil_append]
  have emptied : { intake.issue.enqueue (submissionOf intake request) with queue := [] } =
      intake.issue := by
    rw [Intake.enqueue, Intake.issue, clear.queue_eq]
  refine ⟨.worker, _, .inr rfl, by rw [move?, workerStep?, isQueue],
    alone_of_waiting (move?_last_of_waiting _ _ _ _ clear.fresh), ?_, ?_, ?_⟩
  · have next : Stage intake callers store request 3 _ _ := .taken isAdmitted
    rw [← emptied] at next
    exact next
  · exact List.forall_mem_nil _
  · simp [takeNext]

theorem advances_of_taken (clear : IsClear intake)
    (isAdmitted : intake.refusal? request.operations = none) :
    ∃ mover step, Advances intake callers store request store
      ⟨intake.issue, { taken := some (submissionOf intake request) },
        callers ++ [[.receive intake.tickets .caller request]]⟩ mover step 2 := by
  have isConclusion : conclusion intake store request =
      intake.run store request.operations := by
    rw [conclusion, isAdmitted, Intake.conclude]
  refine ⟨.worker, _, .inr rfl, by rw [move?, workerStep?],
    alone_of_waiting (move?_last_of_waiting _ _ _ _ clear.fresh), ?_, ?_, ?_⟩
  · have next : Stage intake callers store request 2 _ _ := .ran isAdmitted
    rw [isConclusion] at next
    exact next
  · rw [isConclusion]
    have sameRun : intake.issue.run store (submissionOf intake request).batch =
        intake.run store request.operations := rfl
    simp [runTaken, Note.Tells, sameRun]
  · simp [runTaken]

theorem advances_of_ran (clear : IsClear intake) :
    ∃ mover step, Advances intake callers store request (conclusion intake store request).1
      ⟨intake.issue,
        { finished := some (submissionOf intake request, (conclusion intake store request).2) },
        callers ++ [[.receive intake.tickets .caller request]]⟩ mover step 1 := by
  refine ⟨.worker, _, .inr rfl, by rw [move?, workerStep?],
    alone_of_waiting (move?_last_of_waiting _ _ _ _ clear.fresh), .replied, ?_, ?_⟩
  · simp [complete, submissionOf, Callback.call, Note.Tells]
  · simp [complete, submissionOf, Callback.call]

theorem advances_of_replied (clear : IsClear intake) :
    ∃ mover step, Advances intake callers store request (conclusion intake store request).1
      ⟨intake.issue.leave intake.tickets (conclusion intake store request).2, {},
        callers ++ [[.receive intake.tickets .caller request]]⟩ mover step 0 := by
  have ready : (intake.issue.leave intake.tickets
      (conclusion intake store request).2).replies.lookup intake.tickets =
        some (conclusion intake store request).2 := by
    rw [List.lookup_eq_some_iff]
    refine ⟨intake.replies, [], rfl, ?_⟩
    intro reply member
    simpa using (clear.fresh reply member).symm
  obtain ⟨finished, stepped⟩ := move?_last (conclusion intake store request).1
    (intake.issue.leave intake.tickets (conclusion intake store request).2) {} callers
    (.receive intake.tickets .caller request) []
  have pickedUp : (intake.issue.leave intake.tickets
      (conclusion intake store request).2).pickUp intake.tickets = intake.issue := by
    apply Intake.pickUp_leave
    exact clear.fresh
  simp only [Task.step?, ready, Option.map_some, pickedUp] at stepped
  refine ⟨_, _, .inl rfl, stepped, alone_of_idle (move?_worker_of_idle _ _ clear.queue_eq),
    .answered, ?_, ?_⟩
  · simp [Note.Tells]
  · simp

end Advances

namespace Stage

/-- Until the request has been answered one of the two threads can go on. -/
theorem advances (clear : IsClear intake)
    (stage : Stage intake callers store request left before session) (unanswered : left ≠ 0) :
    ∃ mover step fewer, fewer < left ∧
      Advances intake callers store request before session mover step fewer := by
  cases stage with
  | arrived =>
      cases isRefusal : intake.refusal? request.operations with
      | some status =>
          obtain ⟨mover, step, advance⟩ := advances_of_refused callers store clear isRefusal
          exact ⟨mover, step, 1, by decide, advance⟩
      | none =>
          obtain ⟨mover, step, advance⟩ := advances_of_arrived callers store clear isRefusal
          exact ⟨mover, step, 5, by decide, advance⟩
  | admitted isAdmitted =>
      obtain ⟨mover, step, advance⟩ := advances_of_admitted callers store clear isAdmitted
      exact ⟨mover, step, 4, by decide, advance⟩
  | queued isAdmitted =>
      obtain ⟨mover, step, advance⟩ := advances_of_queued callers store clear isAdmitted
      exact ⟨mover, step, 3, by decide, advance⟩
  | taken isAdmitted =>
      obtain ⟨mover, step, advance⟩ := advances_of_taken callers store clear isAdmitted
      exact ⟨mover, step, 2, by decide, advance⟩
  | ran isAdmitted =>
      obtain ⟨mover, step, advance⟩ := advances_of_ran callers store clear
      exact ⟨mover, step, 1, by decide, advance⟩
  | replied =>
      obtain ⟨mover, step, advance⟩ := advances_of_replied callers store clear
      exact ⟨mover, step, 0, by decide, advance⟩
  | answered => exact absurd rfl unanswered

/-- Once it has been answered neither of them does. -/
theorem stays (clear : IsClear intake)
    (stage : Stage intake callers store request 0 before session) {move : Move}
    (ofThese : move.IsOf callers) :
    session.move? before move = none ∧ before = (conclusion intake store request).1 := by
  cases stage with
  | answered =>
      rcases ofThese with rfl | rfl
      · exact ⟨move?_last_of_done _ _ _ _, rfl⟩
      · exact ⟨move?_worker_of_idle _ _ clear.queue_eq, rfl⟩

theorem callers_eq_iff (stage : Stage intake callers store request left before session) :
    session.callers = callers ++ [[]] ↔ left = 0 := by
  cases stage <;> simp

/-- However the two threads take turns, they tell of nothing but the conclusion, and they have
told of it when the last stage is reached. -/
theorem plays (clear : IsClear intake)
    (stage : Stage intake callers store request left before session) (moves : List Move)
    (ofThese : ∀ move ∈ moves, move.IsOf callers) :
    let played := session.play before moves
    (∀ note ∈ Moment.history played.1, note.Tells request (conclusion intake store request).2) ∧
      ∃ last, Stage intake callers store request last played.2.1 played.2.2 ∧
        (last = 0 ↔ left = 0 ∨
          .answered .caller (request.answer (conclusion intake store request).2) ∈
            Moment.history played.1) := by
  induction moves generalizing left before session with
  | nil => exact ⟨List.forall_mem_nil _, left, stage, by simp [Session.play, Moment.history]⟩
  | cons move rest ih =>
      rw [List.forall_mem_cons] at ofThese
      rw [Session.play]
      cases made : session.move? before move with
      | none => exact ih stage ofThese.2
      | some step =>
          have unanswered : left ≠ 0 := by
            rintro rfl
            rw [(stage.stays clear ofThese.1).1] at made
            cases made
          obtain ⟨mover, next, fewer, -, advance⟩ := stage.advances clear unanswered
          have isMover : move = mover := by
            by_contra other
            rw [advance.alone move ofThese.1 other] at made
            cases made
          subst isMover
          rw [advance.made, Option.some.injEq] at made
          subst made
          obtain ⟨tells, last, final, last_iff⟩ := ih advance.stage ofThese.2
          refine ⟨List.forall_mem_append.2 ⟨advance.tells, tells⟩, last, final, ?_⟩
          rw [last_iff, ← advance.answered_iff, ← List.mem_append, or_iff_right unanswered]
          rfl

/-- From every stage the two threads can reach the last. -/
theorem ends (clear : IsClear intake)
    (stage : Stage intake callers store request left before session) :
    ∃ moves : List Move, (∀ move ∈ moves, move.IsOf callers) ∧
      Stage intake callers store request 0 (session.play before moves).2.1
        (session.play before moves).2.2 := by
  induction left using Nat.strong_induction_on generalizing before session with
  | _ left ih =>
      by_cases answered : left = 0
      · subst answered
        exact ⟨[], List.forall_mem_nil _, stage⟩
      · obtain ⟨mover, step, fewer, lower, advance⟩ := stage.advances clear answered
        obtain ⟨others, ofThese, final⟩ := ih fewer lower advance.stage
        refine ⟨mover :: others, List.forall_mem_cons.2 ⟨advance.ofThese, ofThese⟩, ?_⟩
        rw [Session.play, advance.made]
        exact final

end Stage

/-- Where moves lead to when others go before them. -/
theorem play_append (store : Store) (session : Session) (moves others : List Move) :
    (session.play store (moves ++ others)).2 =
      ((session.play store moves).2.2.play (session.play store moves).2.1 others).2 := by
  induction moves generalizing store session with
  | nil => rfl
  | cons move rest ih =>
      rw [List.cons_append, Session.play, Session.play]
      cases session.move? store move with
      | none => exact ih store session
      | some step => exact ih step.store step.session

/-- A session at rest answers a request from outside with what its gate makes of it. -/
theorem answersOutside (clear : IsClear session.intake) (idle : session.worker = {})
    (store : Store) (request : Request) :
    let concluded := conclusion session.intake store request
    session.AnswersOutside store request concluded.1 concluded.2 := by
  have start : Stage session.intake session.callers store request 6 store
      (session.arrive (.submit request)) := by
    rw [arrive, idle]
    exact .arrived
  constructor
  case only =>
    intro moves ofThese
    obtain ⟨tells, last, final, last_iff⟩ := start.plays clear moves ofThese
    refine ⟨tells, ?_⟩
    intro isAnswered
    rw [last_iff.2 (.inr isAnswered)] at final
    exact (final.stays clear (.inr rfl)).2
  case ends =>
    intro moves ofThese
    obtain ⟨-, last, reached, -⟩ := start.plays clear moves ofThese
    obtain ⟨others, ofTheseToo, final⟩ := reached.ends clear
    refine ⟨others, ofTheseToo, ?_⟩
    obtain ⟨-, left, whole, left_iff⟩ := start.plays clear (moves ++ others)
      (List.forall_mem_append.2 ⟨ofThese, ofTheseToo⟩)
    have isLast : left = 0 := by
      rw [← whole.callers_eq_iff, play_append]
      exact final.callers_eq_iff.2 rfl
    exact (left_iff.1 isLast).resolve_left (by decide)

end Outside

section Routes

variable {config : Config} {moments : List Moment} {inside outside : Session} {origin : Origin}
  {request : Request} {rest : List Task}

/-- In every run a session with an empty queue is ready for another batch. -/
theorem Run.isClear (run : Run config moments outside) (emptyQueue : outside.intake.queue = []) :
    IsClear outside.intake where
  queue_eq := emptyQueue
  room := by
    rw [run.accounts.config_eq]
    exact run.usable.queue
  fresh := by
    intro reply member
    have completed : reply ∈ Note.completions (Moment.history moments) :=
      run.accounts.balanced.replies.subset member
    exact Nat.ne_of_lt (run.accounts.balanced.lt_of_completed (List.mem_map_of_mem completed))

theorem IsDrained.worker_eq (drained : outside.IsDrained) : outside.worker = {} := by
  have parts : outside.worker =
      ⟨outside.worker.tasks, outside.worker.taken, outside.worker.finished⟩ := rfl
  rw [parts, drained.tasks_eq, drained.taken_eq, drained.finished_eq]

/-- Whether a completion on the worker makes a request or a caller outside whose session has
nothing else to do, the response and the store afterwards are the same, unless the batch is too
large and the session was shut down.  Then the store is left alone on both routes, but only the
caller outside is told what is wrong with the batch itself. -/
theorem Run.routes_agree (run : Run config moments outside) (drained : outside.IsDrained)
    (sameGate : inside.intake.SameGate outside.intake)
    (isNext : inside.worker.tasks = .perform origin (.submit request) :: rest) (store : Store) :
    ∃ inline queued : Store × Response,
      inside.AnswersInline store origin request inline.1 inline.2 ∧
      outside.AnswersOutside store request queued.1 queued.2 ∧
      (inline = queued ↔ ¬outside.intake.IsDoublyRefused request.operations) ∧
      (outside.intake.IsDoublyRefused request.operations →
        inline = (store, .rejected request.operations.length .unavailable) ∧
          queued = (store, .rejected request.operations.length .badArguments)) := by
  have inline := answersInline isNext store
  rw [sameGate.conclude_eq, sameGate.inlineRefusal?_eq] at inline
  have queued := answersOutside (run.isClear drained.queue_eq) drained.worker_eq store request
  refine ⟨_, _, inline, queued, Intake.conclude_eq_iff, ?_⟩
  intro twice
  rw [conclusion, Intake.inlineRefusal?_of_isDoublyRefused twice,
    Intake.refusal?_of_isDoublyRefused twice]
  exact ⟨rfl, rfl⟩

/-- In particular where the completion of a batch makes a request that goes on from this
batch. -/
theorem routes_agree_below_created :
    let config : Config := { maxBatchSize := 1 }
    let create (path : String) : Operation := .create path ByteArray.empty .persistent
    let request : Request := .batch [create "/a/b"]
    let run := play {} { intake := { config } }
      [.arrive (.submitAsync "first" [create "/a"] [.submit request]), .caller 0, .worker, .worker,
        .worker]
    let inside := run.2.2
    let outside : Session := { intake := { config } }
    Run config [] outside ∧ outside.IsDrained ∧ inside.intake.SameGate outside.intake ∧
      inside.worker.tasks = [.perform (.completion 0 "first" 0) (.submit request)] ∧
      ¬outside.intake.IsDoublyRefused request.operations ∧
      ∃ inline queued : Store × Response,
        inside.AnswersInline run.2.1 (.completion 0 "first" 0) request inline.1 inline.2 ∧
        outside.AnswersOutside run.2.1 request queued.1 queued.2 ∧
        (inline = queued ↔ ¬outside.intake.IsDoublyRefused request.operations) ∧
        (outside.intake.IsDoublyRefused request.operations →
          inline = (run.2.1, .rejected request.operations.length .unavailable) ∧
            queued = (run.2.1, .rejected request.operations.length .badArguments)) := by
  intro config create request run inside outside
  have isRun : Run config [] outside :=
    .opened (openWith_of_usable ⟨by decide, by decide, by decide⟩)
  have drained : outside.IsDrained := ⟨rfl, rfl, rfl, rfl⟩
  have sameGate : inside.intake.SameGate outside.intake :=
    ⟨by decide +kernel, by decide +kernel, by decide +kernel⟩
  have isNext : inside.worker.tasks =
      [.perform (.completion 0 "first" 0) (.submit request)] := rfl
  exact ⟨isRun, drained, sameGate, isNext, fun twice => absurd twice.1 (by decide),
    isRun.routes_agree drained sameGate isNext run.2.1⟩

/-- The one exception.  A completion shuts the session down and makes a request that is too
large; when the worker has come to rest a caller outside makes the same request.  The caller is
told that the batch is at fault, the completion that it may try again. -/
theorem routes_part_after_shutdown :
    let config : Config := { maxBatchSize := 1 }
    let create (path : String) : Operation := .create path ByteArray.empty .persistent
    let request : Request := .batch [create "/b", create "/c"]
    let run := play {} { intake := { config } }
      [.arrive (.submitAsync "first" [create "/a"] [.shutDown, .submit request]), .caller 0,
        .worker, .worker, .worker, .worker]
    let inline := play run.2.1 run.2.2 [.worker]
    let outside := play inline.2.1 inline.2.2 [.arrive (.submit request), .caller 1]
    inline.2.2.IsDrained ∧ run.2.2.intake.SameGate inline.2.2.intake ∧ inline.2.1 = run.2.1 ∧
      Note.completions (Moment.history inline.1) = [(1, .rejected 2 .unavailable)] ∧
      Note.completions (Moment.history outside.1) = [(2, .rejected 2 .badArguments)] := by
  intro config create request run inline outside
  have drained : inline.2.2.IsDrained :=
    ⟨List.isEmpty_iff.1 (by decide +kernel), Option.isNone_iff_eq_none.1 (by decide +kernel),
      Option.isNone_iff_eq_none.1 (by decide +kernel), List.isEmpty_iff.1 (by decide +kernel)⟩
  have sameGate : run.2.2.intake.SameGate inline.2.2.intake :=
    ⟨by decide +kernel, by decide +kernel, by decide +kernel⟩
  exact ⟨drained, sameGate, by decide +kernel, by decide +kernel, by decide +kernel⟩

end Routes

end Session

end BatchTree
