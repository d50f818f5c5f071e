import BatchTree.Proofs.Drain
import BatchTree.Proofs.Shapes

/-!
# The gate

The gate of a session is tested when a batch is handed in and again when its turn comes.
However moves, changes of authority and the shutdown interleave, what the gate keeps out never
reaches the store, and what it has let in is run in its turn.

A batch that is reported as unavailable has therefore left the store alone, with one exception:
where a watcher breaks down, the batch that it was told of is in the tree and is reported as
unavailable nevertheless (`retryable_after_commit`).
-/

namespace BatchTree

/-- The session takes no batch. -/
def Intake.IsShut (intake : Intake) : Prop :=
  intake.authoritative = false ∨ intake.closed = true

namespace Intake

variable {intake : Intake} {batch : Batch}

theorem not_isShut_of_admitted (admitted : intake.refusal? batch = none) : ¬intake.IsShut := by
  unfold refusal? precheck? at admitted
  unfold IsShut
  grind

theorem not_isShut_of_inline (admitted : intake.inlineRefusal? batch = none) :
    ¬intake.IsShut := by
  unfold inlineRefusal? precheck? at admitted
  unfold IsShut
  grind

end Intake

/-- A batch that the store has answered with a code to try again has left it as it was. -/
theorem Store.Reports.eq_of_retryable {limits : Limits} {store after : Store} {batch : Batch}
    {response : Response} (reports : store.Reports limits batch (after, .answered response))
    (retryable : response.outcome.isRetryable = true) : after = store := by
  rw [Status.isRetryable_iff] at retryable
  cases reports with
  | committed commit =>
      rw [commit.outcome_eq] at retryable
      cases retryable
  | aborted abort => rfl
  | rejected => rfl

/-- What is handed in at a shut gate is turned away. -/
theorem Turn.turnsAway_of_isShut {intake : Intake} {store after : Store} {task? : Option Task}
    {before desk : Desk} {notes : List Note} {ticket : Nat} {batch : Batch}
    (turn : Turn intake store task? before after desk notes) (shut : intake.IsShut)
    (submitted : (ticket, batch) ∈ Note.submissions notes) :
    after = store ∧ Note.runs notes = [] ∧ ∃ status, intake.Refuses batch status ∧
      (ticket, .rejected batch.length status) ∈ Note.completions notes := by
  cases turn with
  | quiet silent =>
      rw [silent.submissions] at submitted
      cases submitted
  | refused refusal =>
      cases List.mem_singleton.1 submitted
      exact ⟨rfl, rfl, _, refusal, List.mem_singleton_self _⟩
  | refusedOutside isNext refusal =>
      cases List.mem_singleton.1 submitted
      exact ⟨rfl, rfl, _, refusal, List.mem_singleton_self _⟩
  | refusedInline isNext refusal =>
      cases List.mem_singleton.1 submitted
      exact ⟨rfl, rfl, _, refusal, List.mem_singleton_self _⟩
  | accepted admitted => exact absurd shut (Intake.not_isShut_of_admitted admitted)
  | handedIn isNext admitted => exact absurd shut (Intake.not_isShut_of_admitted admitted)
  | ranInline isNext admitted => exact absurd shut (Intake.not_isShut_of_inline admitted)
  | _ => cases submitted

namespace Session

/-- What the gate of a session does in a course. -/
structure Gated (config : Config) (scenes : List Scene) (session : Session) : Prop where
  /-- A batch that is handed in at a shut gate is turned away there and then, and not run later
  either. -/
  turned_away : ∀ {scene : Scene} {ticket : Nat} {batch : Batch}, scene ∈ scenes →
    (ticket, batch) ∈ Note.submissions scene.step.notes → scene.session.intake.IsShut →
      scene.step.store = scene.store ∧ ticket ∉ (Note.runs (Scene.history scenes)).map Prod.fst ∧
        ∃ status, (status = .unavailable ∨
            status = .badArguments ∧ config.maxBatchSize < batch.length) ∧
          (ticket, .rejected batch.length status) ∈ Note.completions scene.step.notes
  /-- A batch whose turn comes while there is no authority leaves the store alone. -/
  not_executed : ∀ {scene : Scene} {ticket : Nat} {response : Response}, scene ∈ scenes →
    (ticket, response) ∈ Note.runs scene.step.notes →
      scene.session.intake.authoritative = false →
      scene.step.store = scene.store ∧ ∃ batch,
        (ticket, batch) ∈ Note.submissions (Scene.history scenes) ∧
          response = .rejected batch.length .unavailable
  /-- A batch whose turn comes while there is authority is executed, whether or not the session
  was shut down. -/
  executed : ∀ {scene : Scene} {ticket : Nat} {response : Response}, scene ∈ scenes →
    (ticket, response) ∈ Note.runs scene.step.notes →
      scene.session.intake.authoritative = true → ∃ batch,
        (ticket, batch) ∈ Note.submissions (Scene.history scenes) ∧
          (scene.store.execute config.limits batch = (scene.step.store, .answered response) ∨
            scene.store.execute config.limits batch = (scene.step.store, .interrupted) ∧
              response = .rejected batch.length .unavailable)
  /-- No batch has more than one turn, and without one the store stays as it is. -/
  one_turn : ((Note.runs (Scene.history scenes)).map Prod.fst).Nodup
  idle : ∀ scene ∈ scenes, Note.runs scene.step.notes = [] → scene.step.store = scene.store
  /-- A batch that had its turn is completed with the response to its run. -/
  reported : ∀ {ticket : Nat} {response : Response},
    (ticket, response) ∈ Note.runs (Scene.history scenes) →
      (ticket, response) ∈ Note.completions (Scene.history scenes) ∨
        ∃ submission, session.worker.finished = some (submission, response) ∧
          submission.ticket = ticket
  /-- What has joined the queue had its turn in the same order, or waits for it, the one that the
  worker has taken before those in the queue. -/
  in_line : Desk.served (Scene.history scenes) ++
      (session.worker.taken.toList ++ session.intake.queue).map Submission.ticket =
    Note.entries (Scene.history scenes)
  /-- After the shutdown the worker, left to itself, empties the queue. -/
  drains : session.intake.closed = true → ∀ store : Store, ∃ others,
    (∀ scene ∈ others, scene.move matches .worker) ∧
      Course config (scenes ++ others) (session.settle store).session ∧
      (session.settle store).session.IsDrained ∧
      Desk.served (Scene.history (scenes ++ others)) =
        Note.entries (Scene.history (scenes ++ others))
  /-- A batch that may be tried again has not changed the store, unless a watcher broke down. -/
  retryable : ∀ {ticket : Nat} {response : Response},
    (ticket, response) ∈ Note.completions (Scene.history scenes) →
      response.outcome.isRetryable = true → ∀ scene ∈ scenes,
      ticket ∈ (Note.runs scene.step.notes).map Prod.fst →
        scene.step.store = scene.store ∨ ∃ batch,
          (ticket, batch) ∈ Note.submissions (Scene.history scenes) ∧
            scene.store.execute config.limits batch = (scene.step.store, .interrupted)

variable {config : Config} {scenes : List Scene} {scene : Scene} {session : Session}
  {ticket : Nat} {batch : Batch} {response : Response}

namespace Course

/-- A batch that is run in a scene was handed in. -/
theorem runs_of_noted (course : Course config scenes session) (member : scene ∈ scenes)
    (noted : (ticket, response) ∈ Note.runs scene.step.notes) :
    ∃ batch, (ticket, batch) ∈ Note.submissions (Scene.history scenes) ∧
      scene.Runs ticket batch response := by
  rcases course.idle_or_runs member with
    ⟨-, noRun⟩ | ⟨other, batch, reply, runs, onlyRun, submitted⟩
  · rw [noRun] at noted
    cases noted
  · rw [onlyRun, List.mem_singleton] at noted
    cases noted
    exact ⟨batch, submitted, runs⟩

theorem turnsAway (course : Course config scenes session) (member : scene ∈ scenes)
    (submitted : (ticket, batch) ∈ Note.submissions scene.step.notes)
    (shut : scene.session.intake.IsShut) :
    scene.step.store = scene.store ∧ ∃ status, scene.TurnsAway ticket batch status := by
  obtain ⟨same, idle, status, refusal, completed⟩ :=
    (course.turn member).turnsAway_of_isShut shut submitted
  exact ⟨same, status, submitted, idle, refusal, completed⟩

/-- A batch that is run and may be tried again has left the store as it was, unless a watcher
broke down. -/
theorem eq_or_interrupted_of_retryable (course : Course config scenes session)
    (member : scene ∈ scenes) (runs : scene.Runs ticket batch response)
    (retryable : response.outcome.isRetryable = true) :
    scene.step.store = scene.store ∨
      scene.store.execute config.limits batch = (scene.step.store, .interrupted) := by
  cases authority : scene.session.intake.authoritative with
  | false => exact .inl (Intake.run_of_not_authoritative authority runs.ran).1
  | true =>
      rcases Intake.run_of_authoritative authority runs.ran with answered | ⟨interrupted, -⟩
      · have reports := scene.store.reports_execute scene.session.intake.config.limits batch
        rw [answered] at reports
        exact .inl (reports.eq_of_retryable retryable)
      · rw [course.config_eq member] at interrupted
        exact .inr interrupted

/-- The gate of every session is safe. -/
theorem gate_safe (course : Course config scenes session) : Gated config scenes session where
  turned_away := by
    intro scene ticket batch member submitted shut
    obtain ⟨same, status, turnedAway⟩ := course.turnsAway member submitted shut
    have refusal := turnedAway.refusal
    rw [Intake.Refuses, course.config_eq member] at refusal
    exact ⟨same, course.explained.turnedAway member turnedAway, status, refusal,
      turnedAway.completed⟩
  not_executed := by
    intro scene ticket response member noted lost
    obtain ⟨batch, submitted, runs⟩ := course.runs_of_noted member noted
    obtain ⟨same, rejected⟩ := Intake.run_of_not_authoritative lost runs.ran
    exact ⟨same, batch, submitted, rejected⟩
  executed := by
    intro scene ticket response member noted authoritative
    obtain ⟨batch, submitted, runs⟩ := course.runs_of_noted member noted
    have executed := Intake.run_of_authoritative authoritative runs.ran
    rw [course.config_eq member] at executed
    exact ⟨batch, submitted, executed⟩
  one_turn := course.nodup_runs
  idle := by
    intro scene member noRun
    rcases course.idle_or_runs member with ⟨same, -⟩ | ⟨_, _, _, -, onlyRun, -⟩
    · exact same
    · rw [noRun] at onlyRun
      cases onlyRun
  reported := course.inLine.ran
  in_line := course.inLine.order
  drains := course.drains
  retryable := by
    intro ticket response completed retryable scene member hadTurn
    obtain ⟨⟨_, reply⟩, noted, rfl⟩ := List.mem_map.1 hadTurn
    obtain ⟨batch, submitted, runs⟩ := course.runs_of_noted member noted
    -- The response is that of the run, so its code tells how the run ended.
    have same : reply = response :=
      course.inLine.response_eq course.balanced (Scene.mem_history member noted) completed
    subst same
    rcases course.eq_or_interrupted_of_retryable member runs retryable with unchanged | interrupted
    · exact .inl unchanged
    · exact .inr ⟨batch, submitted, interrupted⟩

end Course

/-- In particular where authority is lost and comes back while batches stand in the queue, and
the session is shut down before the last of them has its turn. -/
theorem gate_safe_of_lost_authority :
    let config : Config := { maxBatchSize := 2 }
    let create (path : String) : Operation := .create path ByteArray.empty .persistent
    let moves : List Move :=
      [.arrive (.submitAsync "lost" [create "/a"] []),
        .arrive (.setAuthoritative false),
        .arrive (.submitAsync "refused" [create "/b"] []),
        .arrive (.setAuthoritative true),
        .arrive (.submitAsync "kept" [create "/c"] []),
        .arrive .shutDown,
        .arrive (.submitAsync "late" [create "/d"] []),
        .caller 0, .caller 1, .caller 2, .worker, .worker, .caller 3, .caller 4, .caller 5,
        .caller 6, .worker, .worker, .worker, .worker]
    let run := play {} { intake := { config } } moves
    ∃ scenes, scenes.map Scene.moment = run.1 ∧ Course config scenes run.2.2 ∧
      Gated config scenes run.2.2 ∧
      Note.completions (Moment.history run.1) =
        [(1, .rejected 1 .unavailable), (3, .rejected 1 .unavailable),
          (0, .rejected 1 .unavailable), (2, .committed [.created "/c"] (some 1))] := by
  intro config create moves run
  have isRun : Run config run.1 run.2.2 :=
    run_of_play ⟨by decide, by decide, by decide⟩ {} moves
  obtain ⟨scenes, course, told⟩ := isRun.course
  exact ⟨scenes, told, course, course.gate_safe, by decide +kernel⟩

/-- The one exception: a watcher breaks down when it is told of the batch.  The code of the
response is the one that asks for another try, but the batch is in the tree. -/
theorem retryable_after_commit :
    let config : Config := {}
    let moves : List Move :=
      [.arrive (.submitAsync "hidden" [.create "/x" ByteArray.empty .persistent] []), .caller 0,
        .worker, .worker, .worker]
    let watched : Store := { watchers := Broadcast.add {} .broken }
    let run := play watched { intake := { config } } moves
    Run config run.1 run.2.2 ∧
      (Note.completions (Moment.history run.1)).map (fun completed =>
        (completed.1, completed.2.outcome, completed.2.outcome.isRetryable)) =
          [(0, .unavailable, true)] ∧
      watched.tree.zxid = 0 ∧ run.2.1.tree.zxid = 1 := by
  intro config moves watched run
  have isRun : Run config run.1 run.2.2 :=
    run_of_play ⟨by decide, by decide, by decide⟩ watched moves
  exact ⟨isRun, by decide +kernel, rfl, by decide +kernel⟩

end Session

end BatchTree
