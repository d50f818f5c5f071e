import BatchTree.Proofs.Receipts

/-!
# Single operations

To ask for one operation is to ask for the batch of this operation.  If one request is put in the
place of the other, whoever makes it, the threads of the session can take the same turns, and
these leave the same store, the same watchers and the same queue.  The answer alone differs: a
batch is answered with its response, and a single operation with what this response tells of it
(`Session.Run.singles_are_batches`).
-/

namespace BatchTree

namespace Session

/-- The request is at hand in the session: a new caller makes it, or it is the next call of the
worker or of a caller.  With `put` another call takes its place. -/
inductive Asks (session : Session) (request : Request) :
    Origin → (put : Call → Session) → Prop where
  | arriving : Asks session request .caller session.arrive
  | onWorker {origin : Origin} {rest : List Task}
      (next : session.worker.tasks = .perform origin (.submit request) :: rest) :
      Asks session request origin fun call =>
        { session with worker := { session.worker with tasks := .perform origin call :: rest } }
  | outside {origin : Origin} {rest : List Task} {index : Nat}
      (next : session.callers[index]? = some (.perform origin (.submit request) :: rest)) :
      Asks session request origin fun call =>
        { session with callers := session.callers.set index (.perform origin call :: rest) }

end Session

/-- One thread on its way to the answer to a request, and in its place one on its way to the
answer to the batch. -/
inductive Task.Twins (request : Request) (origin : Origin) : List Task → List Task → Prop where
  | perform {rest : List Task} :
      Twins request origin (.perform origin (.submit request) :: rest)
        (.perform origin (.submit (.batch request.operations)) :: rest)
  | enqueue {submission : Submission} {rest : List Task} :
      Twins request origin
        (.enqueue submission :: .receive submission.ticket origin request :: rest)
        (.enqueue submission :: .receive submission.ticket origin (.batch request.operations) ::
          rest)
  | receive {ticket : Nat} {rest : List Task} :
      Twins request origin (.receive ticket origin request :: rest)
        (.receive ticket origin (.batch request.operations) :: rest)

namespace Session

/-- Two sessions that differ in the one thread that is on its way to the answer. -/
inductive Twins (request : Request) (origin : Origin) : Session → Session → Prop where
  | onWorker {intake : Intake} {rest : List Task} {taken : Option Submission}
      {finished : Option (Submission × Response)} {callers : List (List Task)} :
      Twins request origin
        ⟨intake, ⟨.perform origin (.submit request) :: rest, taken, finished⟩, callers⟩
        ⟨intake, ⟨.perform origin (.submit (.batch request.operations)) :: rest, taken, finished⟩,
          callers⟩
  | outside {intake : Intake} {worker : Worker} {callers : List (List Task)} {index : Nat}
      {left right : List Task} (within : index < callers.length)
      (twins : Task.Twins request origin left right) :
      Twins request origin ⟨intake, worker, callers.set index left⟩
        ⟨intake, worker, callers.set index right⟩

/-- What a move of twins comes to.  Neither of them makes it, or both do the same and are still
twins, or they are one as soon as the request is answered, the one way or the other. -/
inductive Alike (request : Request) (origin : Origin) : Option Step → Option Step → Prop where
  | stuck : Alike request origin none none
  | twins {store : Store} {left right : Session} {notes : List Note}
      (twins : Twins request origin left right) :
      Alike request origin (some ⟨store, left, notes⟩) (some ⟨store, right, notes⟩)
  | answered {store : Store} {session : Session} {notes : List Note} {response : Response}
      {answer : Answer} (told : request.Told response answer) :
      Alike request origin (some ⟨store, session, notes ++ [.answered origin answer]⟩)
        (some ⟨store, session, notes ++ [.answered origin (.response response)]⟩)

/-- Threads that do the same leave alike sessions if each thing that they do leaves such. -/
theorem Alike.of_map {α : Type} {request : Request} {origin : Origin} {left right : α → Step}
    (done? : Option α)
    (each : ∀ done, Alike request origin (some (left done)) (some (right done))) :
    Alike request origin (done?.map left) (done?.map right) := by
  cases done? with
  | none => exact .stuck
  | some done => exact each done

section Callers

variable {store : Store} {intake : Intake} {worker : Worker} (callers : List (List Task))
  {index : Nat} {left right : List Task}

/-- The worker takes no notice of the callers. -/
theorem workerStep?_callers :
    workerStep? store ⟨intake, worker, callers⟩ =
      (workerStep? store ⟨intake, worker, []⟩).map fun step =>
        { step with session := { step.session with callers } } := by
  unfold workerStep?
  dsimp only
  split
  · rw [Option.map_map]
    rfl
  · split <;> rfl

theorem release_callers :
    release ⟨intake, worker, callers⟩ = { release ⟨intake, worker, []⟩ with callers } := by
  unfold release
  dsimp only
  split <;> rfl

theorem all_set_congr {test : List Task → Bool} (same : test left = test right) :
    (callers.set index left).all test = (callers.set index right).all test := by
  have tested (tasks : List Task) : (callers.set index tasks).all test =
      ((callers.map test).set index (test tasks)).all id := by
    rw [← List.map_set, List.all_map]
    rfl
  rw [tested, tested, same]

/-- Twins wait at the same door, so the worker finishes with both or with neither. -/
theorem isFinished_twins {request : Request} {origin : Origin}
    (twins : Task.Twins request origin left right) :
    isFinished ⟨intake, worker, callers.set index left⟩ =
      isFinished ⟨intake, worker, callers.set index right⟩ := by
  unfold isFinished
  dsimp only
  rw [all_set_congr]
  cases twins <;> rfl

end Callers

end Session

namespace Task

/-- What comes of the first task of a thread, if there is a thread and it has one. -/
def turn? (place : Place) (store : Store) (intake : Intake) : Option (List Task) → Option Progress
  | some (task :: rest) => task.step? place store intake rest
  | _ => none

variable {request : Request} (store : Store) (intake : Intake) (rest : List Task) (origin : Origin)

/-- On the worker all requests for these operations come to the same, but for the answer. -/
theorem exists_of_submitOnWorker (single : request.IsSingle) :
    ∃ after notes response, request.Told response (request.answer response) ∧
      ∀ asked : Request, asked.operations = request.operations →
        submitOnWorker store intake rest origin asked =
          ⟨after, intake.issue, rest, notes ++ [.answered origin (asked.answer response)]⟩ := by
  let ticket := intake.tickets
  cases isRefusal : intake.inlineRefusal? request.operations with
  | some status =>
      let response := Response.rejected request.operations.length status
      have told := Request.told_of_refuses single (Intake.refuses_of_inlineRefusal? isRefusal)
      refine ⟨store,
        [.submitted ticket request.operations, .asked ticket origin,
          .completed ticket none true response, .received ticket],
        response, told, ?_⟩
      intro asked same
      simp only [submitOnWorker, same, isRefusal]
      rfl
  | none =>
      obtain ⟨after, response, ran⟩ : ∃ after response,
          intake.run store request.operations = (after, response) := ⟨_, _, rfl⟩
      refine ⟨after,
        [.submitted ticket request.operations, .asked ticket origin, .ran ticket response,
          .completed ticket none true response, .received ticket],
        response, Request.told_of_run single ran, ?_⟩
      intro asked same
      simp only [submitOnWorker, same, isRefusal, ran]
      rfl

/-- Outside they all go on to wait, whether or not they are turned away. -/
theorem twins_of_submitAndWait (request : Request) :
    ∃ next left right notes, Twins request origin left right ∧
      submitAndWait store intake rest origin request = ⟨store, next, left, notes⟩ ∧
      submitAndWait store intake rest origin (.batch request.operations) =
        ⟨store, next, right, notes⟩ := by
  cases refusal : intake.refusal? request.operations with
  | some status =>
      exact ⟨_, _, _, _, .receive, submitAndWait_of_refusal store intake rest origin refusal,
        submitAndWait_of_refusal store intake rest origin refusal⟩
  | none =>
      exact ⟨_, _, _, _, .enqueue, submitAndWait_of_admitted store intake rest origin refusal,
        submitAndWait_of_admitted store intake rest origin refusal⟩

end Task

namespace Session

variable {config : Config} {moments : List Moment} {request : Request} {origin : Origin}
  {left right : Session}

theorem callerStep?_eq_map (store : Store) (session : Session) (index : Nat) :
    session.callerStep? store index =
      (Task.turn? (.outside session.isFinished) store session.intake session.callers[index]?).map
        fun progress =>
          { store := progress.store
            session :=
              { session with
                intake := progress.intake
                callers := session.callers.set index progress.tasks }
            notes := progress.notes } := by
  unfold callerStep? Task.turn?
  cases session.callers[index]? with
  | none => rfl
  | some tasks => cases tasks <;> rfl

/-- The turn of the caller who is on the way to the answer. -/
theorem alike_of_callerStep? {intake : Intake} {worker : Worker} {callers : List (List Task)}
    {index : Nat} {asking whole : List Task} (within : index < callers.length)
    (twins : Task.Twins request origin asking whole) (single : request.IsSingle)
    (run : Run config moments ⟨intake, worker, callers.set index asking⟩) (store : Store) :
    Alike request origin
      (callerStep? store ⟨intake, worker, callers.set index asking⟩ index)
      (callerStep? store ⟨intake, worker, callers.set index whole⟩ index) := by
  simp only [callerStep?_eq_map, List.getElem?_set_self within, List.set_set]
  cases twins with
  | @perform rest =>
      simp only [Task.turn?, Task.step?, Task.makeCall, Option.map_some]
      obtain ⟨next, left, right, notes, twins, asked, whole⟩ :=
        Task.twins_of_submitAndWait store intake rest origin request
      rw [asked, whole]
      exact .twins (.outside within twins)
  | enqueue =>
      simp only [Task.turn?, Task.step?]
      split
      · exact .stuck
      · exact .twins (.outside within .receive)
  | @receive ticket rest =>
      simp only [Task.turn?, Task.step?]
      cases ready : intake.replies.lookup ticket with
      | none => exact .stuck
      | some response =>
          have found : (callers.set index (.receive ticket origin request :: rest))[index]? =
              some (.receive ticket origin request :: rest) := List.getElem?_set_self within
          have outcome := run.outcome_of_ready (mem_awaiting_of_receive found) ready
          exact @Alike.answered _ _ _ _ [.received ticket] _ _
            (Request.told_of_outcome single outcome)

/-- A move of twins leaves twins, or it ends in the two answers. -/
theorem Twins.move (twins : Twins request origin left right) (single : request.IsSingle)
    (run : Run config moments left) (store : Store) (move : Move) :
    Alike request origin (left.move? store move) (right.move? store move) := by
  cases twins with
  | @onWorker intake rest taken finished callers =>
      cases move with
      | arrive call => exact .twins .onWorker
      | caller index =>
          simp only [move?, callerStep?_eq_map]
          exact .of_map _ fun progress => .twins .onWorker
      | worker =>
          obtain ⟨after, notes, response, told, submits⟩ :=
            Task.exists_of_submitOnWorker store intake rest origin single
          simp only [move?, workerStep?, Task.step?, Task.makeCall, submits request rfl,
            submits (.batch request.operations) rfl]
          exact .answered told
      | release => exact .twins .onWorker
  | @outside intake worker callers index asking whole within twins =>
      cases move with
      | arrive call =>
          simp only [move?, arrive, ← List.set_append_left _ _ within]
          have later : index < (callers ++ [[Task.perform .caller call]]).length := by
            rw [List.length_append]
            exact Nat.lt_add_right _ within
          exact .twins (.outside later twins)
      | caller other =>
          by_cases own : index = other
          · subst own
            exact alike_of_callerStep? within twins single run store
          · simp only [move?, callerStep?_eq_map, List.getElem?_set_ne own, List.set_comm _ _ own,
              isFinished_twins callers twins]
            refine .of_map _ fun progress => .twins (.outside ?_ twins)
            rwa [List.length_set]
      | worker =>
          simp only [move?, workerStep?_callers (callers.set _ _)]
          exact .of_map _ fun step => .twins (.outside within twins)
      | release =>
          simp only [move?, release_callers (callers.set _ _)]
          exact .twins (.outside within twins)

/-- Make one move after the other, as `play` does, but let others change the store before each. -/
def playAmid (store : Store) (session : Session) :
    List ((Store → Store) × Move) → List Moment × Store × Session
  | [] => ([], store, session)
  | (change, move) :: rest =>
      match session.move? (change store) move with
      | none => session.playAmid (change store) rest
      | some step =>
          let others := step.session.playAmid step.store rest
          (⟨change store, step.store, step.notes⟩ :: others.1, others.2)

theorem Run.playAmid {session : Session} (run : Run config moments session) (store : Store)
    (moves : List ((Store → Store) × Move)) :
    Run config (moments ++ (session.playAmid store moves).1)
      (session.playAmid store moves).2.2 := by
  induction moves generalizing moments session store with
  | nil => simpa [Session.playAmid] using run
  | cons turn rest ih =>
      rw [Session.playAmid]
      cases made : session.move? (turn.1 store) turn.2 with
      | none => exact ih run (turn.1 store)
      | some step =>
          have others := ih (run.move (turn.1 store) made) step.store
          rw [List.append_assoc] at others
          exact others

/-- How a run in which one operation is asked for compares with the run in which its batch is.
They are the same throughout, except that either the answer still waits in both, or one moment
tells of the two answers. -/
inductive Compared (request : Request) (origin : Origin) :
    List Moment × Store × Session → List Moment × Store × Session → Prop where
  | waiting {moments : List Moment} {store : Store} {left right : Session}
      (twins : Twins request origin left right) :
      Compared request origin (moments, store, left) (moments, store, right)
  | answered {earlier later : List Moment} {before after store : Store} {notes : List Note}
      {session : Session} {response : Response} {answer : Answer}
      (told : request.Told response answer) :
      Compared request origin
        (earlier ++ ⟨before, after, notes ++ [.answered origin answer]⟩ :: later, store, session)
        (earlier ++ ⟨before, after, notes ++ [.answered origin (.response response)]⟩ :: later,
          store, session)

/-- The two runs leave the same store with the same watchers, and the same queue, and differ in the
answers alone.  The settings leave room for one operation. -/
structure Agree (request : Request) (origin : Origin)
    (asked whole : List Moment × Store × Session) : Prop where
  store_eq : asked.2.1 = whole.2.1
  intake_eq : asked.2.2.intake = whole.2.2.intake
  compared : Compared request origin asked whole
  fits : asked.2.2.intake.precheck? request.operations ≠ some .badArguments

theorem Compared.cons {left right : List Moment × Store × Session}
    (compared : Compared request origin left right) (moment : Moment) :
    Compared request origin (moment :: left.1, left.2) (moment :: right.1, right.2) := by
  cases compared with
  | waiting twins => exact .waiting twins
  | answered told =>
      simp only [← List.cons_append]
      exact .answered told

theorem Compared.store_eq {left right : List Moment × Store × Session}
    (compared : Compared request origin left right) : left.2.1 = right.2.1 := by
  cases compared with
  | waiting => rfl
  | answered => rfl

theorem Compared.intake_eq {left right : List Moment × Store × Session}
    (compared : Compared request origin left right) : left.2.2.intake = right.2.2.intake := by
  cases compared with
  | waiting twins => cases twins <;> rfl
  | answered => rfl

/-- Twins whose threads take the same turns are one from the answer on. -/
theorem Twins.compared (twins : Twins request origin left right) (single : request.IsSingle)
    (run : Run config moments left) (store : Store) (moves : List ((Store → Store) × Move)) :
    Compared request origin (left.playAmid store moves) (right.playAmid store moves) := by
  induction moves generalizing moments left right store with
  | nil => exact .waiting twins
  | cons turn rest ih =>
      obtain ⟨change, move⟩ := turn
      have alike := twins.move single run (change store) move
      rw [playAmid, playAmid]
      generalize made : left.move? (change store) move = asked at alike ⊢
      generalize right.move? (change store) move = whole at alike ⊢
      cases alike with
      | stuck => exact ih twins run _
      | twins next => exact (ih next (run.move _ made) _).cons _
      | answered told => exact @Compared.answered _ _ [] _ _ _ _ _ _ _ _ told

/-- However the request is at hand, its batch in its place makes a twin of the session. -/
theorem Asks.twins {session : Session} {put : Call → Session}
    (asks : session.Asks request origin put) :
    Twins request origin (put (.submit request)) (put (.submit (.batch request.operations))) := by
  cases asks with
  | arriving =>
      have last (call : Call) : session.arrive call = ⟨session.intake, session.worker,
          (session.callers ++ [[]]).set session.callers.length [.perform .caller call]⟩ := by
        rw [List.set_append_right _ _ le_rfl, Nat.sub_self]
        rfl
      rw [last, last]
      refine .outside ?_ .perform
      rw [List.length_append]
      exact Nat.lt_succ_self _
  | onWorker => exact .onWorker
  | outside next =>
      obtain ⟨within, -⟩ := List.getElem?_eq_some_iff.1 next
      exact .outside within .perform

/-- The session in which the request is at hand is reached by a run. -/
theorem Asks.exists_run {session : Session} {put : Call → Session}
    (asks : session.Asks request origin put) (run : Run config moments session) :
    ∃ moments, Run config moments (put (.submit request)) := by
  cases asks with
  | arriving =>
      have made : session.move? {} (.arrive (.submit request)) =
          some ⟨{}, session.arrive (.submit request), []⟩ := rfl
      exact ⟨_, run.move {} made⟩
  | onWorker next =>
      refine ⟨moments, ?_⟩
      dsimp only
      rw [← next]
      exact run
  | outside next =>
      obtain ⟨within, isThread⟩ := List.getElem?_eq_some_iff.1 next
      refine ⟨moments, ?_⟩
      dsimp only
      rw [← isThread, List.set_getElem_self]
      exact run

/-- A session that could be opened has room for a batch of one. -/
theorem Run.precheck?_ne {session : Session} (run : Run config moments session)
    (single : request.IsSingle) :
    session.intake.precheck? request.operations ≠ some .badArguments := by
  have room : ¬config.maxBatchSize < request.operations.length := by
    rw [Request.length_operations single]
    exact Nat.not_lt_of_ge run.usable.batches
  rw [Intake.precheck?, run.accounts.config_eq, if_neg room]
  split
  · rintro ⟨⟩
  · rintro ⟨⟩

/-- A request for one operation leaves the store, its watchers and the queue as the batch of this
operation does, and is answered with what the response to the batch tells of it.  It is never
turned away for its size. -/
theorem Run.singles_are_batches {session : Session} {put : Call → Session}
    (run : Run config moments session) (asks : session.Asks request origin put)
    (single : request.IsSingle) (store : Store) (moves : List ((Store → Store) × Move)) :
    Agree request origin ((put (.submit request)).playAmid store moves)
      ((put (.submit (.batch request.operations))).playAmid store moves) := by
  obtain ⟨earlier, reached⟩ := asks.exists_run run
  have compared := asks.twins.compared single reached store moves
  exact ⟨compared.store_eq, compared.intake_eq, compared,
    (reached.playAmid store moves).precheck?_ne single⟩

/-- In particular where a node with a counter is asked for, and another session creates a node
beside it while the request is in the queue. -/
theorem singles_are_batches_of_sequential_create :
    let config : Config := { maxBatchSize := 1, queueDepth := 1 }
    let create (path : String) : Operation := .create path ByteArray.empty .persistent
    let request : Request := .create "/q/n-" ByteArray.empty .sequential
    let watched : Store := { watchers := Broadcast.add {} .recorder }
    let opened := play watched { intake := { config } }
      [.arrive (.submitAsync "queue" [create "/q"] []), .caller 0, .worker, .worker, .worker]
    let rival (store : Store) : Store := (store.execute config.limits [create "/q/x"]).1
    let moves : List ((Store → Store) × Move) :=
      [(id, .caller 1), (id, .caller 0), (id, .caller 1), (id, .worker), (rival, .worker),
        (id, .worker), (id, .caller 1)]
    let session := opened.2.2
    let asked := (session.arrive (.submit request)).playAmid opened.2.1 moves
    let whole := (session.arrive (.submit (.batch request.operations))).playAmid opened.2.1 moves
    Run config opened.1 session ∧ session.Asks request .caller session.arrive ∧
      request.IsSingle ∧ Agree request .caller asked whole ∧
      .answered .caller (.path "/q/n-0000000001") ∈ Moment.history asked.1 ∧
      .answered .caller (.response (.committed [.created "/q/n-0000000001"] (some 3))) ∈
        Moment.history whole.1 := by
  intro config create request watched opened rival moves session asked whole
  have isRun : Run config opened.1 session :=
    run_of_play ⟨by decide, by decide, by decide⟩ watched _
  have asks : session.Asks request .caller session.arrive := .arriving
  have single : request.IsSingle := trivial
  exact ⟨isRun, asks, single, isRun.singles_are_batches asks single opened.2.1 moves,
    by decide +kernel, by decide +kernel⟩

end Session

end BatchTree
