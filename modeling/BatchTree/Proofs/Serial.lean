import BatchTree.Proofs.Receipts

/-!
# Sessions are serial

A session that alone uses a fresh store leaves it as its committed batches do when they are
executed one after the other, in the order in which they were run.  That order is the order
of the queue, except that the worker runs what one of its completions waits for at once.
-/

namespace BatchTree

/-- A batch that is run on a sound store is executed, or it is not and leaves no trace. -/
theorem Intake.run_of_sound {intake : Intake} {store after : Store} {batch : Batch}
    {response : Response} (sound : store.Sound)
    (ran : intake.run store batch = (after, response)) :
    after.Sound ∧
      after.tree = if response.isCommitted then
        (store.tree.execute intake.config.limits batch).tree else store.tree := by
  obtain ⟨executed, soundToo, isTree, isExecuted⟩ := sound.execute intake.config.limits batch
  rw [run, isExecuted] at ran
  split at ran
  · cases ran
    refine ⟨soundToo, ?_⟩
    split
    · exact isTree
    · rename_i notCommitted
      rw [isTree, Tree.tree_of_not_committed (Bool.eq_false_of_not_eq_true notCommitted)]
  · cases ran
    exact ⟨sound, rfl⟩

/-- A batch that the worker may run at once is executed. -/
theorem Intake.executed_of_admitted {intake : Intake} {store after : Store} {batch : Batch}
    {response : Response} (admitted : intake.inlineRefusal? batch = none) (sound : store.Sound)
    (ran : intake.run store batch = (after, response)) :
    store.execute intake.config.limits batch = (after, .answered response) := by
  have authoritative : intake.authoritative = true := by
    unfold inlineRefusal? precheck? at admitted
    grind
  obtain ⟨executed, -, -, isExecuted⟩ := sound.execute intake.config.limits batch
  rw [run, if_pos authoritative, isExecuted] at ran
  rw [isExecuted]
  cases ran
  rfl

namespace Session

/-- The runs of a session that alone uses a fresh store.  Watchers may come and go, as long as
none of them can break down. -/
inductive SoleRun (config : Config) : List Moment → Store → Session → Prop where
  | opened {watchers : Broadcast Mailbox} {session : Session}
      (sound : (Store.mk .fresh watchers).Sound) (success : openWith config = .ok session) :
      SoleRun config [] ⟨.fresh, watchers⟩ session
  | move {moments : List Moment} {store : Store} {session : Session} {step : Step} {move : Move}
      (run : SoleRun config moments store session)
      (made : session.move? store move = some step) :
      SoleRun config (moments ++ [⟨store, step.store, step.notes⟩]) step.store step.session
  | watch {moments : List Moment} {store : Store} {session : Session}
      {watchers : Broadcast Mailbox} (run : SoleRun config moments store session)
      (sound : (Store.mk store.tree watchers).Sound) :
      SoleRun config moments ⟨store.tree, watchers⟩ session

/-- A batch that was committed, with the response to it. -/
structure Commit where
  ticket : Nat
  batch : Batch
  response : Response

/-- The tree is what the commits of a run lead to when they are executed one after the other,
in the order in which they were run. -/
structure InSeries (config : Config) (moments : List Moment) (tree : Tree)
    (commits : List Commit) : Prop where
  noted : (Note.runs (Moment.history moments)).filter (·.2.isCommitted) =
    commits.map fun commit => (commit.ticket, commit.response)
  submitted : ∀ commit ∈ commits,
    (commit.ticket, commit.batch) ∈ Note.submissions (Moment.history moments)
  executed : Tree.fresh.executeAll config.limits (commits.map Commit.batch) =
    (tree, commits.map Commit.response)
  /-- Commits are numbered from one, without those of empty batches. -/
  numbered : ∃ count : Nat, tree.zxid = count ∧
    (commits.filter fun commit => commit.batch ≠ []).map (fun commit => commit.response.zxid) =
      (List.range count).map fun number : Nat => some ((number : Zxid) + 1)

variable {config : Config} {moments : List Moment} {moment : Moment} {store : Store} {tree : Tree}
  {session : Session} {commits : List Commit}

theorem SoleRun.run (run : SoleRun config moments store session) : Run config moments session := by
  induction run with
  | opened _ success => exact .opened success
  | move _ made ih => exact ih.move _ made
  | watch _ _ ih => exact ih

/-- A moment in which nothing is committed. -/
theorem InSeries.skip (series : InSeries config moments tree commits)
    (none : (Note.runs moment.notes).filter (·.2.isCommitted) = []) :
    InSeries config (moments ++ [moment]) tree commits where
  noted := by
    rw [Moment.history_concat, Note.runs_append, List.filter_append, none, List.append_nil,
      series.noted]
  submitted := by
    intro commit member
    rw [Moment.history_concat, Note.submissions_append]
    exact List.mem_append_left _ (series.submitted commit member)
  executed := series.executed
  numbered := series.numbered

/-- A moment in which one batch is committed. -/
theorem InSeries.concat (series : InSeries config moments tree commits) (commit : Commit)
    (submitted : (commit.ticket, commit.batch) ∈
      Note.submissions (Moment.history (moments ++ [moment])))
    (ran : Note.runs moment.notes = [(commit.ticket, commit.response)])
    (committed : commit.response.isCommitted = true)
    (answered : (tree.execute config.limits commit.batch).response = commit.response) :
    InSeries config (moments ++ [moment]) (tree.execute config.limits commit.batch).tree
      (commits ++ [commit]) where
  noted := by
    rw [Moment.history_concat, Note.runs_append, List.filter_append, series.noted, ran,
      List.filter_singleton, committed, List.map_append]
    rfl
  submitted := by
    intro other member
    rcases List.mem_append.1 member with earlier | last
    · rw [Moment.history_concat, Note.submissions_append]
      exact List.mem_append_left _ (series.submitted other earlier)
    · rw [List.mem_singleton.1 last]
      exact submitted
  executed := by
    rw [List.map_append, List.map_append, List.map_singleton, List.map_singleton,
      Tree.executeAll_concat, series.executed]
    dsimp only
    rw [answered]
  numbered := by
    obtain ⟨count, isCount, numbers⟩ := series.numbered
    rw [← answered] at committed
    obtain ⟨isNumber, isZxid⟩ := Tree.number_of_committed committed
    rw [answered] at isZxid
    by_cases empty : commit.batch = []
    · refine ⟨count, ?_, ?_⟩
      · rw [isNumber, if_pos empty, Int.add_zero, isCount]
      · rw [List.filter_append, List.filter_cons_of_neg (by simpa using empty), List.filter_nil,
          List.append_nil, numbers]
    · refine ⟨count + 1, ?_, ?_⟩
      · rw [isNumber, if_neg empty, isCount]
        rfl
      · rw [List.filter_append, List.filter_cons_of_pos (by simpa using empty), List.filter_nil,
          List.map_append, numbers, List.range_succ, List.map_append, List.map_singleton,
          List.map_singleton, isZxid, if_neg empty, isCount]

/-- Every move keeps a sole run in series. -/
theorem InSeries.move {move : Move} {step : Step}
    (series : InSeries config moments store.tree commits)
    (accounts : Accounts config moments session) (sound : store.Sound)
    (made : session.move? store move = some step) :
    step.store.Sound ∧ ∃ others,
      InSeries config (moments ++ [⟨store, step.store, step.notes⟩]) step.store.tree others := by
  have turn := turn_of_move? accounts.inOrder made
  rcases turn.store_eq_or_ran with
    ⟨same, noRun⟩ | ⟨ticket, batch, response, ran, onlyRun, origin⟩
  · rw [same]
    refine ⟨sound, commits, series.skip ?_⟩
    rw [noRun]
    rfl
  · obtain ⟨soundToo, isTree⟩ := Intake.run_of_sound sound ran
    refine ⟨soundToo, ?_⟩
    cases committed : response.isCommitted with
    | false =>
        rw [isTree, if_neg (Bool.not_eq_true _ ▸ committed)]
        refine ⟨commits, series.skip ?_⟩
        rw [onlyRun, List.filter_singleton, committed]
        rfl
    | true =>
        rw [isTree, if_pos committed, accounts.config_eq]
        refine ⟨_, series.concat ⟨ticket, batch, response⟩ ?_ onlyRun committed ?_⟩
        · rw [Moment.history_concat, Note.submissions_append, List.mem_append]
          rcases origin with handedIn | ⟨submission, held, rfl, rfl⟩
          · exact .inr handedIn
          · exact .inl (accounts.held submission held)
        · have executed := Intake.executed_of_run ran committed
          rw [accounts.config_eq] at executed
          exact Store.response_of_execute executed

theorem SoleRun.inSeries (run : SoleRun config moments store session) :
    store.Sound ∧ ∃ commits, InSeries config moments store.tree commits := by
  induction run with
  | opened sound success =>
      refine ⟨sound, [], rfl, List.forall_mem_nil _, rfl, 0, rfl, rfl⟩
  | move run made ih =>
      obtain ⟨sound, commits, series⟩ := ih
      exact series.move run.run.accounts sound made
  | watch run sound ih => exact ⟨sound, ih.2⟩

/-- A session is serial if its committed batches, executed one after the other, lead to the
store and to the responses that were given, with which everyone who waited was answered; if what
has joined the queue is run in that order; and if the worker runs at once what one of its
completions hands in and waits for. -/
structure Serial (config : Config) (moments : List Moment) (store : Store) (session : Session) :
    Prop where
  inSeries : ∃ commits, InSeries config moments store.tree commits
  /-- A commit was reported, or is about to be. -/
  reported : ∀ {ticket : Nat} {response : Response}, response.isCommitted = true →
    ((ticket, response) ∈ Note.runs (Moment.history moments) ↔
      (ticket, response) ∈ Note.completions (Moment.history moments) ∨
        ∃ submission, session.worker.finished = some (submission, response) ∧
          submission.ticket = ticket)
  /-- Whoever waits for a response is answered with the one that was reported. -/
  returned : ∃ scenes, Course config scenes session ∧ scenes.map Scene.moment = moments ∧
    Returned scenes session
  inLine : Desk.served (Moment.history moments) ++
      (session.worker.taken.toList ++ session.intake.queue).map Submission.ticket =
    Note.entries (Moment.history moments)
  atOnce : ∀ {origin : Origin} {request : Request} {rest : List Task},
    session.worker.tasks = .perform origin (.submit request) :: rest →
      ∃ step response, session.workerStep? store = some step ∧
        step.session.intake.queue = session.intake.queue ∧
        (session.intake.tickets, response) ∈ Note.completions step.notes ∧
        (session.intake.inlineRefusal? request.operations = none →
          store.execute config.limits request.operations = (step.store, .answered response) ∧
            Note.runs step.notes = [(session.intake.tickets, response)])

/-- The worker does not queue what it would have to wait for. -/
theorem workerStep?_of_submit (store : Store) {origin : Origin} {request : Request}
    {rest : List Task} (isNext : session.worker.tasks = .perform origin (.submit request) :: rest) :
    ∃ step response, session.workerStep? store = some step ∧
      step.session.intake.queue = session.intake.queue ∧
      (session.intake.tickets, response) ∈ Note.completions step.notes ∧
      (session.intake.inlineRefusal? request.operations = none →
        session.intake.run store request.operations = (step.store, response) ∧
          Note.runs step.notes = [(session.intake.tickets, response)]) := by
  rw [workerStep?, isNext]
  simp only [Task.step?, Option.map_some]
  have calls := Task.calls_of_makeCall .worker store session.intake rest origin (.submit request)
  generalize Task.makeCall .worker store session.intake rest origin (.submit request) = progress
    at calls
  cases calls with
  | refusedInline onWorker refusal =>
      refine ⟨_, _, rfl, rfl, List.mem_cons_self, ?_⟩
      intro admitted
      cases admitted.symm.trans refusal
  | ranInline onWorker admitted ran =>
      exact ⟨_, _, rfl, rfl, List.mem_cons_self, fun _ => ⟨ran, rfl⟩⟩
  | refusedOutside outside => exact absurd rfl outside
  | handedIn outside => exact absurd rfl outside
  | answers waitsNot => cases waitsNot

/-- A session that alone uses a fresh store is serial. -/
theorem SoleRun.serial (run : SoleRun config moments store session) :
    session.Serial config moments store where
  inSeries := run.inSeries.2
  reported := by
    intro ticket response committed
    have accounts := run.run.accounts
    constructor
    · exact run.run.inLine.ran
    · rintro (completed | ⟨submission, isFinished, rfl⟩)
      · obtain ⟨batch, answers⟩ := accounts.completed completed
        obtain ⟨moment, member, noted, -⟩ := answers.executed committed
        exact mem_runs_of_noted member noted
      · obtain ⟨moment, member, noted, -⟩ := (accounts.finished isFinished).executed committed
        exact mem_runs_of_noted member noted
  returned := by
    obtain ⟨scenes, course, isRun⟩ := run.run.course
    exact ⟨scenes, course, isRun, course.returned⟩
  inLine := run.run.inLine.order
  atOnce := by
    intro origin request rest isNext
    obtain ⟨step, response, stepped, sameQueue, completed, ran⟩ :=
      workerStep?_of_submit store isNext
    refine ⟨step, response, stepped, sameQueue, completed, ?_⟩
    intro admitted
    refine ⟨?_, (ran admitted).2⟩
    rw [← run.run.accounts.config_eq]
    exact Intake.executed_of_admitted admitted run.inSeries.1 (ran admitted).1

theorem SoleRun.play (run : SoleRun config moments store session) (moves : List Move) :
    let played := session.play store moves
    SoleRun config (moments ++ played.1) played.2.1 played.2.2 := by
  induction moves generalizing moments session store with
  | nil => simpa [Session.play] using run
  | cons move rest ih =>
      rw [Session.play]
      cases made : session.move? store move with
      | none => exact ih run
      | some step =>
          have others := ih (run.move made)
          dsimp only at others
          rw [List.append_assoc] at others
          exact others

theorem soleRun_of_play (usable : config.Usable) (moves : List Move) :
    let played := play {} { intake := { config } } moves
    SoleRun config played.1 played.2.1 played.2.2 :=
  (SoleRun.opened Store.sound_of_unwatched (openWith_of_usable usable)).play moves

/-- In particular where a completion waits for a batch while others stand in the queue, of
which one is aborted and one is empty. -/
theorem serial_of_interleaving :
    let config : Config := { maxBatchSize := 2 }
    let create (path : String) : Operation := .create path ByteArray.empty .persistent
    let moves : List Move :=
      [.arrive (.submitAsync "first" [create "/a"] [.submit (.batch [create "/b"])]),
        .arrive (.submitAsync "twice" [create "/c", create "/a"] []),
        .arrive (.submitAsync "empty" [] []),
        .arrive (.submitAsync "last" [create "/c"] []),
        .caller 0, .caller 1, .caller 2, .caller 3, .worker, .worker, .worker, .worker, .worker,
        .worker, .worker, .worker, .worker, .worker, .worker, .worker, .worker]
    let run := play {} { intake := { config } } moves
    SoleRun config run.1 run.2.1 run.2.2 ∧ run.2.2.Serial config run.1 run.2.1 ∧
      run.2.1.tree.zxid = 3 ∧
      (Note.runs (Moment.history run.1)).map (fun ran => (ran.1, ran.2.zxid)) =
        [(0, some 1), (4, some 2), (1, none), (2, none), (3, some 3)] := by
  intro config create moves run
  have isRun : SoleRun config run.1 run.2.1 run.2.2 :=
    soleRun_of_play ⟨by decide, by decide, by decide⟩ moves
  exact ⟨isRun, isRun.serial, by decide +kernel, by decide +kernel⟩

/-- Two ways out of the series.  The completion of a batch that is turned away runs on the
thread that handed it in, and there a batch to wait for joins the queue.  And if a watcher
breaks down, the batch that it was told of is reported as rejected and stays in the tree. -/
theorem exceptions_to_serial :
    let config : Config := { maxBatchSize := 1 }
    let create (path : String) : Operation := .create path ByteArray.empty .persistent
    let moves : List Move :=
      [.arrive (.submitAsync "first" [create "/x"] []),
        .arrive (.submitAsync "large" [create "/y", create "/y"] [.submit (.batch [create "/z"])]),
        .caller 0, .caller 1]
    let run := play {} { intake := { config } } moves
    let others := play run.2.1 run.2.2 [.caller 1, .caller 1, .worker, .worker, .worker, .worker,
      .worker]
    let watched : Store := { watchers := Broadcast.add {} .broken }
    let fewMoves : List Move :=
      [.arrive (.submitAsync "hidden" [create "/x"] []), .caller 0, .worker, .worker, .worker]
    let broken := play watched { intake := { config } } fewMoves
    (SoleRun config run.1 run.2.1 run.2.2 ∧
        run.2.2.callers[1]? = some
          [.perform (.completion 1 "large" 0) (.submit (.batch [create "/z"])),
            .report .caller .submitted] ∧
        run.2.2.intake.refusal? [create "/z"] = none ∧
        others.1.head?.map Moment.notes =
          some [.submitted 2 [create "/z"], .asked 2 (.completion 1 "large" 0)] ∧
        (Note.runs (Moment.history others.1)).map Prod.fst = [0, 2]) ∧
      Run config broken.1 broken.2.2 ∧
        Note.completions (Moment.history broken.1) = [(0, .rejected 1 .unavailable)] ∧
        broken.2.1.tree.zxid = 1 := by
  intro config create moves run others watched fewMoves broken
  have usable : config.Usable := ⟨by decide, by decide, by decide⟩
  have isRun : SoleRun config run.1 run.2.1 run.2.2 := soleRun_of_play usable moves
  have isBroken : Run config broken.1 broken.2.2 := run_of_play usable watched fewMoves
  constructor
  · exact ⟨isRun, rfl, by decide +kernel, by decide +kernel, by decide +kernel⟩
  · exact ⟨isBroken, by decide +kernel, by decide +kernel⟩

end Session

end BatchTree
