import BatchTree.Proofs.Runs

/-!
# Scenes of a run

A course is a run that is told in full: each of its scenes shows the session that makes the
move, with its gate and its queue, beside the store and what comes of the move.  No batch is
run twice, and a batch that was completed was run in one of the scenes or turned away in one,
and then it is run in none.
-/

namespace BatchTree

/-- One move of a course: the session that makes it, the store on which it is made, and what
comes of it. -/
structure Scene where
  session : Session
  store : Store
  move : Session.Move
  step : Session.Step

namespace Scene

def moment (scene : Scene) : Moment :=
  ⟨scene.store, scene.step.store, scene.step.notes⟩

/-- Everything that was noted in a course. -/
def history (scenes : List Scene) : List Note :=
  Moment.history (scenes.map moment)

theorem history_concat (scenes : List Scene) (scene : Scene) :
    history (scenes ++ [scene]) = history scenes ++ scene.step.notes := by
  rw [history, List.map_append]
  exact Moment.history_concat _ scene.moment

theorem history_append (earlier later : List Scene) :
    history (earlier ++ later) = history earlier ++ history later := by
  rw [history, List.map_append, Moment.history, List.flatMap_append]
  rfl

/-- What is noted in one scene is noted in the course. -/
theorem mem_history {α : Type} {read : Note → Option α} {scenes : List Scene} {scene : Scene}
    {noted : α} (member : scene ∈ scenes) (inScene : noted ∈ scene.step.notes.filterMap read) :
    noted ∈ (history scenes).filterMap read := by
  obtain ⟨note, isNote, isRead⟩ := List.mem_filterMap.1 inScene
  exact List.mem_filterMap.2
    ⟨note, List.mem_flatMap.2 ⟨scene.moment, List.mem_map_of_mem member, isNote⟩, isRead⟩

theorem mem_history_of_only {α : Type} {read : Note → Option α} {scenes : List Scene}
    {scene : Scene} {noted : α} (member : scene ∈ scenes)
    (only : scene.step.notes.filterMap read = [noted]) : noted ∈ (history scenes).filterMap read :=
  mem_history member (only ▸ List.mem_singleton_self _)

/-- In the scene the worker runs the batch to the response. -/
structure Runs (scene : Scene) (ticket : Nat) (batch : Batch) (response : Response) : Prop where
  noted : (ticket, response) ∈ Note.runs scene.step.notes
  ran : scene.session.intake.run scene.store batch = (scene.step.store, response)

/-- In the scene the batch is handed in and turned away with the given code. -/
structure TurnsAway (scene : Scene) (ticket : Nat) (batch : Batch) (status : Status) : Prop where
  submitted : (ticket, batch) ∈ Note.submissions scene.step.notes
  idle : Note.runs scene.step.notes = []
  refusal : scene.session.intake.Refuses batch status
  completed : (ticket, .rejected batch.length status) ∈ Note.completions scene.step.notes

end Scene

namespace Desk

variable {desk next : Desk} {history notes : List Note} {intake : Intake} {store after : Store}
  {task? : Option Task} {ticket : Nat}

theorem Balanced.lt_of_completed (balanced : desk.Balanced history)
    (completed : ticket ∈ (Note.completions history).map Prod.fst) : ticket < desk.tickets := by
  rw [← Multiset.mem_range, ← balanced.custody, Multiset.mem_add]
  exact .inr completed

/-- What is in custody has not been completed. -/
theorem Balanced.notMem_completions_of_held (balanced : desk.Balanced history)
    {submission : Submission} (held : submission ∈ desk.held) :
    submission.ticket ∉ (Note.completions history).map Prod.fst := by
  intro completed
  exact Multiset.disjoint_left.1 (Multiset.nodup_add.1 balanced.nodup_custody).2.2
    (Multiset.mem_map_of_mem Submission.ticket held) (Multiset.mem_coe.2 completed)

/-- What was run or completed before is not run again. -/
theorem InLine.notMem_runs_of_turn (inLine : desk.InLine history)
    (balanced : desk.Balanced history) (turn : Turn intake store task? desk after next notes)
    (past : ticket ∈ (Note.runs history).map Prod.fst ∨
      ticket ∈ (Note.completions history).map Prod.fst) :
    ticket ∉ (Note.runs notes).map Prod.fst := by
  cases turn.moves with
  | nothing noRun =>
      rw [noRun]
      exact List.not_mem_nil
  | joins noRun =>
      rw [noRun]
      exact List.not_mem_nil
  | passes run =>
      have before : ticket < desk.tickets :=
        past.elim (inLine.lt_of_ran balanced) balanced.lt_of_completed
      rw [run, List.map_singleton, List.mem_singleton]
      exact Nat.ne_of_lt before
  | @leaves submission response run _ isLine =>
      -- The ticket of what is still to be run is in custody once: it was neither run nor completed.
      have isPending : submission ∈ desk.pending := by
        apply mem_pending_of_line
        rw [isLine]
        exact List.mem_cons_self
      rw [run, List.map_singleton, List.mem_singleton]
      rintro rfl
      rcases past with ran | completed
      · exact inLine.notMem_runs_of_pending balanced isPending ran
      · exact balanced.notMem_completions_of_held (mem_held_of_pending isPending) completed

/-- A batch that was run is completed with the response to its run. -/
theorem InLine.response_eq (inLine : desk.InLine history) (balanced : desk.Balanced history)
    {ran completed : Response} (isRun : (ticket, ran) ∈ Note.runs history)
    (isCompleted : (ticket, completed) ∈ Note.completions history) : ran = completed := by
  rcases inLine.ran isRun with reported | ⟨submission, isFinished, rfl⟩
  · exact congrArg Prod.snd
      (List.inj_on_of_nodup_map balanced.nodup_completions reported isCompleted rfl)
  · exact absurd (List.mem_map_of_mem isCompleted)
      (balanced.notMem_completions_of_held (mem_held_of_finished isFinished))

end Desk

/-- At most one batch is run in a turn. -/
theorem Turn.nodup_runs {desk next : Desk} {notes : List Note} {intake : Intake}
    {store after : Store} {task? : Option Task}
    (turn : Turn intake store task? desk after next notes) :
    ((Note.runs notes).map Prod.fst).Nodup := by
  cases turn.moves with
  | nothing noRun => rw [noRun]; exact .nil
  | joins noRun => rw [noRun]; exact .nil
  | passes run => rw [run]; exact List.nodup_singleton _
  | leaves run => rw [run]; exact List.nodup_singleton _

/-- A batch that is handed in has a ticket that was not drawn before. -/
theorem Turn.le_of_submitted {desk next : Desk} {notes : List Note} {intake : Intake}
    {store after : Store} {task? : Option Task} {ticket : Nat}
    (turn : Turn intake store task? desk after next notes)
    (submitted : ticket ∈ (Note.submissions notes).map Prod.fst) : desk.tickets ≤ ticket := by
  have distinct : (List.range next.tickets).Nodup := List.nodup_range
  rw [turn.draws, List.nodup_append'] at distinct
  by_contra drawn
  exact distinct.2.2 (List.mem_range.2 (Nat.lt_of_not_le drawn)) submitted

namespace Session

/-- The courses of a session under the given settings. -/
inductive Course (config : Config) : List Scene → Session → Prop where
  | opened {session : Session} (success : openWith config = .ok session) :
      Course config [] session
  | move {scenes : List Scene} {session : Session} {store : Store} {move : Move} {step : Step}
      (course : Course config scenes session) (made : session.move? store move = some step) :
      Course config (scenes ++ [⟨session, store, move, step⟩]) step.session

variable {config : Config} {scenes earlier later : List Scene} {scene : Scene} {session : Session}
  {ticket : Nat} {batch : Batch} {response : Response}

namespace Course

/-- A course is a run. -/
theorem run (course : Course config scenes session) :
    Run config (scenes.map Scene.moment) session := by
  induction course with
  | opened success => exact .opened success
  | move _ made ih =>
      rw [List.map_append]
      exact ih.move _ made

theorem inLine (course : Course config scenes session) :
    session.desk.InLine (Scene.history scenes) :=
  course.run.inLine

theorem balanced (course : Course config scenes session) :
    session.desk.Balanced (Scene.history scenes) :=
  course.run.accounts.balanced

/-- Each scene goes on from a course of its own. -/
theorem upTo (course : Course config (earlier ++ scene :: later) session) :
    Course config earlier scene.session ∧
      scene.session.move? scene.store scene.move = some scene.step := by
  generalize whole : earlier ++ scene :: later = scenes at course
  induction course generalizing later with
  | opened => cases List.append_ne_nil_of_right_ne_nil earlier (List.cons_ne_nil scene later) whole
  | @move others current store move step course made ih =>
      rcases List.eq_nil_or_concat later with rfl | ⟨between, last, rfl⟩
      · obtain ⟨rfl, same⟩ := List.append_inj' whole rfl
        obtain ⟨rfl, -⟩ := List.cons.inj same
        exact ⟨course, made⟩
      · rw [List.concat_eq_append, ← List.cons_append, ← List.append_assoc] at whole
        exact ih (List.append_inj' whole rfl).1

theorem turn (course : Course config scenes session) (member : scene ∈ scenes) :
    Turn scene.session.intake scene.store (scene.session.task? scene.move) scene.session.desk
      scene.step.store scene.step.session.desk scene.step.notes := by
  obtain ⟨earlier, later, rfl⟩ := List.append_of_mem member
  exact turn_of_move? course.upTo.1.run.accounts.inOrder course.upTo.2

theorem config_eq (course : Course config scenes session) (member : scene ∈ scenes) :
    scene.session.intake.config = config := by
  obtain ⟨earlier, later, rfl⟩ := List.append_of_mem member
  exact course.upTo.1.run.accounts.config_eq

/-- No batch is run twice. -/
theorem nodup_runs (course : Course config scenes session) :
    ((Note.runs (Scene.history scenes)).map Prod.fst).Nodup := by
  induction course with
  | opened => exact .nil
  | move course made ih =>
      have turn := turn_of_move? course.run.accounts.inOrder made
      rw [Scene.history_concat, Note.runs_append, List.map_append, List.nodup_append']
      refine ⟨ih, turn.nodup_runs, ?_⟩
      intro ticket ran
      exact course.inLine.notMem_runs_of_turn course.balanced turn (.inl ran)

/-- In a scene either nothing is run and the store stays as it is, or one batch is run that
was handed in. -/
theorem idle_or_runs (course : Course config scenes session) (member : scene ∈ scenes) :
    scene.step.store = scene.store ∧ Note.runs scene.step.notes = [] ∨
      ∃ ticket batch response, scene.Runs ticket batch response ∧
        Note.runs scene.step.notes = [(ticket, response)] ∧
        (ticket, batch) ∈ Note.submissions (Scene.history scenes) := by
  rcases (course.turn member).store_eq_or_ran with
    idle | ⟨ticket, batch, response, ran, onlyRun, origin⟩
  · exact .inl idle
  · refine .inr ⟨ticket, batch, response, ⟨onlyRun ▸ List.mem_singleton_self _, ran⟩, onlyRun, ?_⟩
    obtain ⟨earlier, later, rfl⟩ := List.append_of_mem member
    have handedIn : (ticket, batch) ∈
        Note.submissions (Scene.history earlier ++ scene.step.notes) := by
      rw [Note.submissions_append, List.mem_append]
      rcases origin with now | ⟨submission, held, rfl, rfl⟩
      · exact .inr now
      · exact .inl (course.upTo.1.run.accounts.held submission held)
    rw [← Scene.history_concat] at handedIn
    rw [← List.singleton_append, ← List.append_assoc, Scene.history_append,
      Note.submissions_append]
    exact List.mem_append_left _ handedIn

end Course

/-- What a course leaves behind was run in it, or turned away. -/
structure Explained (scenes : List Scene) (session : Session) : Prop where
  finished : ∀ {submission : Submission} {response : Response},
    session.desk.finished = some (submission, response) →
      ∃ scene ∈ scenes, scene.Runs submission.ticket submission.batch response
  completed : ∀ {ticket : Nat} {response : Response},
    (ticket, response) ∈ Note.completions (Scene.history scenes) →
      ∃ batch, (ticket, batch) ∈ Note.submissions (Scene.history scenes) ∧
        ((∃ scene ∈ scenes, scene.Runs ticket batch response) ∨
          ∃ scene ∈ scenes, ∃ status, scene.TurnsAway ticket batch status ∧
            response = .rejected batch.length status)
  turnedAway : ∀ {scene : Scene} {ticket : Nat} {batch : Batch} {status : Status},
    scene ∈ scenes → scene.TurnsAway ticket batch status →
      ticket ∉ (Note.runs (Scene.history scenes)).map Prod.fst

theorem Explained.concat {step : Step} {move : Move} {store : Store}
    (explained : Explained scenes session) (course : Course config scenes session)
    (made : session.move? store move = some step) :
    Explained (scenes ++ [⟨session, store, move, step⟩]) step.session := by
  have turn := turn_of_move? course.run.accounts.inOrder made
  have isLast : (⟨session, store, move, step⟩ : Scene) ∈ scenes ++ [⟨session, store, move, step⟩] :=
    List.mem_append_right _ (List.mem_singleton_self _)
  have isRun {ticket : Nat} {response : Response} (noted : .ran ticket response ∈ step.notes) :
      (ticket, response) ∈ Note.runs step.notes := List.mem_filterMap.2 ⟨_, noted, rfl⟩
  constructor
  case finished =>
    intro submission response isFinished
    rcases turn.finished_before_or_ran isFinished with before | ⟨-, ran, noted⟩
    · obtain ⟨scene, member, runs⟩ := explained.finished before
      exact ⟨scene, List.mem_append_left _ member, runs⟩
    · exact ⟨_, isLast, isRun noted, ran⟩
  case completed =>
    intro ticket response completed
    rw [Scene.history_concat, Note.completions_append, List.mem_append] at completed
    rw [Scene.history_concat, Note.submissions_append]
    rcases completed with earlier | now
    · obtain ⟨batch, submitted, ⟨scene, member, runs⟩ | ⟨scene, member, turnedAway⟩⟩ :=
        explained.completed earlier
      · exact ⟨batch, List.mem_append_left _ submitted,
          .inl ⟨scene, List.mem_append_left _ member, runs⟩⟩
      · exact ⟨batch, List.mem_append_left _ submitted,
          .inr ⟨scene, List.mem_append_left _ member, turnedAway⟩⟩
    · rcases turn.completed_cases now with
        ⟨submission, isFinished, rfl⟩ | ⟨batch, submitted, turnedAway | ⟨ran, noted⟩⟩
      · obtain ⟨scene, member, runs⟩ := explained.finished isFinished
        exact ⟨submission.batch,
          List.mem_append_left _ (course.run.accounts.held submission
            (Desk.mem_held_of_finished isFinished)),
          .inl ⟨scene, List.mem_append_left _ member, runs⟩⟩
      · obtain ⟨status, refusal, rfl, idle⟩ := turnedAway
        exact ⟨batch, List.mem_append_right _ submitted,
          .inr ⟨_, isLast, status, ⟨submitted, idle, refusal, now⟩, rfl⟩⟩
      · exact ⟨batch, List.mem_append_right _ submitted, .inl ⟨_, isLast, isRun noted, ran⟩⟩
  case turnedAway =>
    intro scene ticket batch status member turnedAway
    rw [Scene.history_concat, Note.runs_append, List.map_append, List.mem_append, not_or]
    rcases List.mem_append.1 member with earlier | last
    · have completed : (ticket, .rejected batch.length status) ∈
          Note.completions (Scene.history scenes) := Scene.mem_history earlier turnedAway.completed
      refine ⟨explained.turnedAway earlier turnedAway, ?_⟩
      exact course.inLine.notMem_runs_of_turn course.balanced turn
        (.inr (List.mem_map_of_mem completed))
    · obtain rfl := List.mem_singleton.1 last
      constructor
      · -- The ticket was drawn in this very turn, so no earlier run bears it.
        intro ran
        have drawn := course.inLine.lt_of_ran course.balanced ran
        have fresh := turn.le_of_submitted (List.mem_map_of_mem turnedAway.submitted)
        exact Nat.not_le_of_lt drawn fresh
      · rw [turnedAway.idle]
        exact List.not_mem_nil

theorem Course.explained (course : Course config scenes session) : Explained scenes session := by
  induction course with
  | opened success =>
      obtain ⟨-, rfl⟩ := openWith_eq_ok success
      refine ⟨?_, ?_, ?_⟩
      · intro submission response isFinished
        cases isFinished
      · intro ticket response completed
        cases completed
      · intro scene ticket batch status member
        cases member
  | move course made ih => exact ih.concat course made

/-- Every run can be told in full. -/
theorem Run.course {moments : List Moment} (run : Run config moments session) :
    ∃ scenes, Course config scenes session ∧ scenes.map Scene.moment = moments := by
  induction run with
  | opened success => exact ⟨[], .opened success, rfl⟩
  | @move moments session step run store move made ih =>
      obtain ⟨scenes, course, rfl⟩ := ih
      refine ⟨_, course.move made, ?_⟩
      rw [List.map_append]
      rfl

end Session

end BatchTree
