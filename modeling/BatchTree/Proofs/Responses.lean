import BatchTree.Proofs.Receipts

/-!
# Responses have one of three shapes

Whatever a session completes a batch with, and whatever it answers to a call that waits for one,
comes of a response of one of the three shapes (`Session.Run.responses_shaped`).  The store changes,
and the watchers are told of something, only where a batch is run.

If a watcher breaks down when it is told of a commit, the response has the shape of a rejection
although the batch took effect and other watchers were told of it
(`Session.rejected_after_events`).
-/

namespace BatchTree

namespace Session

/-- Every response of a session has one of the three shapes, and the store changes, and the
watchers are told of something, only where a batch is run. -/
structure Shaped (config : Config) (moments : List Moment) (session : Session) : Prop where
  completed : ∀ {ticket : Nat} {response : Response},
    (ticket, response) ∈ Note.completions (Moment.history moments) →
      ∃ batch, (ticket, batch) ∈ Note.submissions (Moment.history moments) ∧
        Outcome config moments ticket batch response
  /-- An answer that tells of a batch conveys a response that the batch of the call came to. -/
  answered : ∀ {moment : Moment} {origin : Origin} {answer : Answer}, moment ∈ moments →
    (origin, answer) ∈ Note.answers moment.notes →
      answer.IsPlain ∨ ∃ (ticket : Nat) (request : Request) (response : Response),
        (ticket, request.operations) ∈ Note.submissions (Moment.history moments) ∧
        (ticket, response) ∈ Note.completions (Moment.history moments) ∧
        request.Conveys response answer ∧
        Outcome config moments ticket request.operations response
  /-- What is left for a caller to pick up is what its batch was completed with. -/
  delivered : ∀ reply ∈ session.intake.replies, reply ∈ Note.completions (Moment.history moments)
  idle_or_runs : ∀ moment ∈ moments,
    moment.after = moment.before ∧ Note.runs moment.notes = [] ∨
      ∃ ticket response, Note.runs moment.notes = [(ticket, response)]

variable {config : Config} {moments : List Moment} {scenes : List Scene} {scene : Scene}
  {session : Session}

/-- An answer tells of no batch, or conveys the response to the batch of a call that waited. -/
theorem Course.plain_or_conveys (course : Course config scenes session) (member : scene ∈ scenes)
    {origin : Origin} {answer : Answer}
    (answered : (origin, answer) ∈ Note.answers scene.step.notes) :
    answer.IsPlain ∨ ∃ (ticket : Nat) (request : Request) (response : Response),
      (ticket, request.operations) ∈ Note.submissions (Scene.history scenes) ∧
      (ticket, response) ∈ Note.completions (Scene.history scenes) ∧
      request.Conveys response answer ∧
      Outcome config (scenes.map Scene.moment) ticket request.operations response := by
  rcases course.returned.alone member answered with
    plain | ⟨earlier, isEarlier, waiter, response, asks, completed, returns⟩
  · exact .inl plain
  · have isOnly := answered
    rw [returns.answered, List.mem_singleton] at isOnly
    cases isOnly
    exact .inr ⟨waiter.ticket, waiter.request, response,
      Scene.mem_history_of_only isEarlier asks.submitted, completed,
      course.returned.conveyed isEarlier asks completed, course.outcome isEarlier asks completed⟩

theorem Run.shaped (run : Run config moments session) : Shaped config moments session where
  completed := run.outcome_of_completed
  answered := by
    intro moment origin answer member answered
    obtain ⟨scenes, course, rfl⟩ := run.course
    obtain ⟨scene, isScene, rfl⟩ := List.mem_map.1 member
    exact course.plain_or_conveys isScene answered
  delivered := fun reply waits => run.accounts.balanced.replies.subset waits
  idle_or_runs := fun moment member => run.idle_or_runs member

/-- Every response is of one of the three shapes, whether the store gives it or a session, except
for that to a batch which a watcher broke down over. -/
theorem Run.responses_shaped (run : Run config moments session) :
    (∀ (limits : Limits) (store : Store) (batch : Batch),
        store.Reports limits batch (store.execute limits batch)) ∧
      Shaped config moments session :=
  ⟨Store.reports_execute, run.shaped⟩

/-- In particular where a recorder watches a batch that is committed and one that is aborted,
and a third is turned away for its size. -/
theorem responses_shaped_of_mixed_batches :
    let config : Config := { maxBatchSize := 3 }
    let create (path : String) (mode : CreateMode) : Operation := .create path ByteArray.empty mode
    let committed : Batch :=
      [create "/q" .persistent, .check "/q" 0, create "/q/n-" .sequential]
    let aborted : Batch := [.check "/q" 0, .delete "/q" anyVersion]
    let moves : List Move :=
      [.arrive (.submitAsync "commit" committed []), .arrive (.submit (.batch aborted)),
        .arrive (.submitAsync "large" (aborted ++ aborted) []), .caller 0, .caller 1, .caller 2,
        .caller 1, .worker, .worker, .worker, .worker, .worker, .worker, .caller 1]
    let watched : Store := { watchers := Broadcast.add {} .recorder }
    let run := play watched { intake := { config } } moves
    Run config run.1 run.2.2 ∧
      (∀ (limits : Limits) (store : Store) (batch : Batch),
        store.Reports limits batch (store.execute limits batch)) ∧
      Shaped config run.1 run.2.2 ∧
      Note.completions (Moment.history run.1) =
        [(2, .rejected 4 .badArguments),
          (0, .committed [.created "/q", .checked, .created "/q/n-0000000000"] (some 1)),
          (1, .aborted 2 1 .notEmpty)] ∧
      (.caller, .response (.aborted 2 1 .notEmpty)) ∈ Note.answers (Moment.history run.1) ∧
      run.2.1.watchers.subscriptions.flatMap (·.sink.events.map Event.message) =
        ["/q created @1", "/q/n-0000000000 created @1"] := by
  intro config create committed aborted moves watched run
  have isRun : Run config run.1 run.2.2 :=
    run_of_play ⟨by decide, by decide, by decide⟩ watched moves
  obtain ⟨reports, shaped⟩ := isRun.responses_shaped
  exact ⟨isRun, reports, shaped, by decide +kernel, by decide +kernel, by decide +kernel⟩

/-- The exception: one watcher is told of the batch and the next breaks down.  The response has the
shape of a rejection, but there was an event, and the tree has changed. -/
theorem rejected_after_events :
    let config : Config := {}
    let batch : Batch := [.create "/x" ByteArray.empty .persistent]
    let moves : List Move :=
      [.arrive (.submit (.batch batch)), .caller 0, .caller 0, .worker, .worker, .worker, .caller 0]
    let watched : Store := { watchers := (Broadcast.add {} .recorder).add .broken }
    let run := play watched { intake := { config } } moves
    Run config run.1 run.2.2 ∧
      Note.answers (Moment.history run.1) = [(.caller, .response (.rejected 1 .unavailable))] ∧
      Response.IsRejection batch .unavailable (.rejected 1 .unavailable) ∧
      (run.2.1.watchers.subscriptions.take 1).flatMap (·.sink.events.map Event.message) =
        ["/x created @1"] ∧
      watched.tree.zxid = 0 ∧ run.2.1.tree.zxid = 1 := by
  intro config batch moves watched run
  have isRun : Run config run.1 run.2.2 :=
    run_of_play ⟨by decide, by decide, by decide⟩ watched moves
  exact ⟨isRun, by decide +kernel, Response.isRejection_rejected batch .unavailable,
    by decide +kernel, rfl, by decide +kernel⟩

end Session

end BatchTree
