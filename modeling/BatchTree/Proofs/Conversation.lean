import BatchTree.Proofs.Routes

/-!
# A client by itself

A client that makes one call at a time, and lets the worker come to rest before each step of its
own, takes one of the courses that are open to the two threads.  If the session has nothing else
to do, the client gets the response that every other course leads to
(`Session.answersOutside_execute`), and leaves the session as it was, with one more ticket drawn
(`Session.execute_of_idle`).
-/

namespace BatchTree

/-- Notes that tell of no other response have this one for the answer to the caller. -/
theorem Note.callerAnswer?_of_tells {request : Request} {response : Response} {notes : List Note}
    (tells : ∀ note ∈ notes, note.Tells request response)
    (answered : .answered .caller (request.answer response) ∈ notes) :
    callerAnswer? notes = some (request.answer response) := by
  have isSome : (callerAnswer? notes).isSome :=
    List.findSome?_isSome_iff.2 ⟨_, answered, rfl⟩
  obtain ⟨answer, isAnswer⟩ := Option.isSome_iff_exists.1 isSome
  obtain ⟨note, member, isNote⟩ := List.exists_of_findSome?_eq_some isAnswer
  rw [isAnswer]
  split at isNote
  · cases isNote
    exact congrArg some (tells _ member).2
  · cases isNote

namespace Session

variable {intake : Intake} {request : Request} {session : Session} {store before : Store}
  {step : Step} {left : Nat}

theorem settle_of_stopped (stopped : session.workerStep? store = none) :
    session.settle store = ⟨store, session, []⟩ := by
  rw [settle]
  split
  · rfl
  · rename_i stepped
    rw [stopped] at stepped
    cases stepped

theorem settle_of_workerStep? (stepped : session.workerStep? store = some step) :
    session.settle store = (step.session.settle step.store).after step.notes := by
  rw [settle]
  split
  · rename_i stopped
    rw [stopped] at stepped
    cases stepped
  · rename_i other steppedToo
    rw [stepped, Option.some.injEq] at steppedToo
    rw [steppedToo]

/-- The client goes on from where the worker has come to rest. -/
theorem converse_eq (store : Store) (session : Session) :
    session.converse store =
      let settled := session.settle store
      match settled.session.clientStep? settled.store with
      | none => settled
      | some step => (step.session.converse step.store).after (settled.notes ++ step.notes) := by
  rw [converse]
  dsimp only
  split
  · rename_i stopped
    rw [stopped]
  · rename_i stepped
    rw [stepped]

theorem converse_of_workerStep? (stepped : session.workerStep? store = some step) :
    session.converse store = (step.session.converse step.store).after step.notes := by
  rw [converse_eq, converse_eq step.store, settle_of_workerStep? stepped]
  generalize step.session.settle step.store = settled
  dsimp only [Step.after]
  split
  · rfl
  · simp only [List.append_assoc]

theorem converse_of_clientStep? (stopped : session.workerStep? store = none)
    (stepped : session.clientStep? store = some step) :
    session.converse store = (step.session.converse step.store).after step.notes := by
  rw [converse_eq, settle_of_stopped stopped]
  dsimp only
  rw [stepped]
  rfl

theorem converse_of_stopped (stopped : session.workerStep? store = none)
    (silent : session.clientStep? store = none) :
    session.converse store = ⟨store, session, []⟩ := by
  rw [converse_eq, settle_of_stopped stopped]
  dsimp only
  rw [silent]

/-- A client is not kept waiting by a worker that no completion holds. -/
theorem clientStep?_of_idle (idle : session.worker.tasks = []) :
    session.clientStep? store = session.callerStep? store 0 := by
  have free : session.isHeld = false := by
    rw [isHeld, idle]
  rw [clientStep?, skipHeldBack?, free]
  split
  · rename_i skipped
    split at skipped <;> cases skipped
  · rfl

namespace Stage

theorem tasks_eq {callers : List (List Task)}
    (stage : Stage intake callers store request left before session) :
    session.worker.tasks = [] := by
  cases stage <;> rfl

/-- The client takes its request from any stage to the last, and is told of the conclusion. -/
theorem converses (clear : IsClear intake)
    (stage : Stage intake [] store request left before session) :
    let ended := session.converse before
    Stage intake [] store request 0 ended.store ended.session ∧
      (∀ note ∈ ended.notes, note.Tells request (conclusion intake store request).2) ∧
      (left ≠ 0 →
        .answered .caller (request.answer (conclusion intake store request).2) ∈ ended.notes) := by
  induction left using Nat.strong_induction_on generalizing before session with
  | _ left ih =>
      by_cases last : left = 0
      · subst last
        have stopped : session.workerStep? before = none := (stage.stays clear (.inr rfl)).1
        have silent : session.clientStep? before = none := by
          rw [clientStep?_of_idle stage.tasks_eq]
          exact (stage.stays clear (.inl rfl)).1
        rw [converse_of_stopped stopped silent]
        exact ⟨stage, List.forall_mem_nil _, fun unanswered => absurd rfl unanswered⟩
      · obtain ⟨mover, step, fewer, lower, advance⟩ := stage.advances clear last
        -- Whoever can move, the client sees to it that this is the one who does.
        have moves : session.converse before =
            (step.session.converse step.store).after step.notes := by
          rcases advance.ofThese with rfl | rfl
          · have stopped : session.workerStep? before = none :=
              advance.alone .worker (.inr rfl) Move.noConfusion
            refine converse_of_clientStep? stopped ?_
            rw [clientStep?_of_idle stage.tasks_eq]
            exact advance.made
          · exact converse_of_workerStep? advance.made
        obtain ⟨final, tells, answered⟩ := ih fewer lower advance.stage
        rw [moves]
        refine ⟨final, List.forall_mem_append.2 ⟨advance.tells, tells⟩, ?_⟩
        intro _
        by_cases isLast : fewer = 0
        · exact List.mem_append_left _ (advance.answered_iff.2 isLast)
        · exact List.mem_append_right _ (answered isLast)

end Stage

/-- A client of a session that has nothing else to do gets the response that its gate and the
store make of the batch, and leaves the session so that it has nothing else to do. -/
theorem execute_of_idle (clear : IsClear session.intake) (idle : session.worker = {})
    (store : Store) (batch : Batch) :
    ∃ notes,
      session.execute store batch =
        (⟨(conclusion session.intake store (.batch batch)).1,
            ⟨session.intake.issue, {}, [[]]⟩, notes⟩,
          (conclusion session.intake store (.batch batch)).2) := by
  have start : Stage session.intake [] store (.batch batch) 6 store
      ⟨session.intake, {}, [[.perform .caller (.submit (.batch batch))]]⟩ := .arrived
  obtain ⟨final, tells, answered⟩ := start.converses clear
  have isAnswer := Note.callerAnswer?_of_tells tells (answered (by decide))
  rw [execute, call, idle]
  generalize ended : converse store
    ⟨session.intake, {}, [[.perform .caller (.submit (.batch batch))]]⟩ = step
      at final isAnswer ⊢
  obtain ⟨after, next, notes⟩ := step
  cases final
  refine ⟨notes, ?_⟩
  dsimp only at isAnswer ⊢
  rw [isAnswer]
  rfl

/-- However the client and the worker take turns, the client gets the same response and leaves the
same store. -/
theorem answersOutside_execute (clear : IsClear session.intake) (idle : session.worker = {})
    (store : Store) (batch : Batch) :
    let executed := session.execute store batch
    session.AnswersOutside store (.batch batch) executed.1.store executed.2 := by
  obtain ⟨notes, isExecuted⟩ := execute_of_idle clear idle store batch
  rw [isExecuted]
  exact answersOutside clear idle store (.batch batch)

end Session

end BatchTree
