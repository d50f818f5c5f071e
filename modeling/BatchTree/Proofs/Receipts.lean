import BatchTree.Proofs.Answers

/-!
# Receipts

A call that waits for the response to its batch asks for it as it hands the batch in.  From then
on somebody waits, until the response that the batch was completed with is received, by whatever
route; and then the call is answered with what this response conveys.  Nobody is told of a batch
in any other way (`Session.Course.returned`).
-/

namespace BatchTree

namespace Waiter

/-- A call hands in the batch of its request, and asks for the response under the ticket that the
batch draws. -/
structure Asks (waiter : Waiter) (task? : Option Task) (notes : List Note) : Prop where
  isNext : task? = some (.perform waiter.origin (.submit waiter.request))
  submitted : Note.submissions notes = [(waiter.ticket, waiter.request.operations)]
  asked : Note.asks notes = [(waiter.ticket, waiter.origin)]

/-- The response is received, and the call is answered with what the request makes of it. -/
structure Returns (waiter : Waiter) (response : Response) (notes : List Note) : Prop where
  received : Note.receipts notes = [waiter.ticket]
  answered : Note.answers notes = [(waiter.origin, waiter.request.answer response)]

/-- The waiter whom a call leaves that asks. -/
theorem Asks.eq {waiter : Waiter} {ticket : Nat} {origin : Origin} {request : Request}
    {notes : List Note}
    (asks : waiter.Asks (some (.perform origin (.submit request))) notes)
    (asked : Note.asks notes = [(ticket, origin)]) : waiter = ⟨ticket, origin, request⟩ := by
  obtain ⟨other, _, _⟩ := waiter
  cases asks.isNext
  have same := asked.symm.trans asks.asked
  simp only [List.cons.injEq, Prod.mk.injEq, and_true] at same
  rw [same]

end Waiter

namespace Turn

variable {intake : Intake} {store after : Store} {task? : Option Task} {before desk : Desk}
  {notes : List Note} {waiter : Waiter}

/-- Whoever asks in a turn waits after it, or has the response already. -/
theorem waits_of_asks (turn : Turn intake store task? before after desk notes)
    (asks : waiter.Asks task? notes) :
    waiter ∈ desk.awaiting ∨ ∃ response, Note.completions notes = [(waiter.ticket, response)] ∧
      waiter.Returns response notes := by
  have asked := asks.asked
  cases turn with
  | quiet silent =>
      rw [silent.asks] at asked
      cases asked
  | refusedOutside isNext refusal =>
      subst isNext
      rw [asks.eq rfl]
      exact .inl (Multiset.mem_cons_self _ _)
  | handedIn isNext admitted =>
      subst isNext
      rw [asks.eq rfl]
      exact .inl (Multiset.mem_cons_self _ _)
  | refusedInline isNext refusal =>
      subst isNext
      rw [asks.eq rfl]
      exact .inr ⟨_, rfl, rfl, rfl⟩
  | ranInline isNext admitted ran =>
      subst isNext
      rw [asks.eq rfl]
      exact .inr ⟨_, rfl, rfl, rfl⟩
  | _ => cases asked

/-- Whoever has waited goes on to do so, or receives the response that lies ready. -/
theorem waits_or_returns (turn : Turn intake store task? before after desk notes)
    (waits : waiter ∈ before.awaiting) :
    waiter ∈ desk.awaiting ∨ ∃ response,
      before.replies.lookup waiter.ticket = some response ∧ waiter.Returns response notes := by
  cases turn with
  | received isAwaiting ready =>
      rw [isAwaiting, Multiset.mem_cons] at waits
      rcases waits with rfl | other
      · exact .inr ⟨_, ready, rfl, rfl⟩
      · exact .inl other
  | refusedOutside => exact .inl (Multiset.mem_cons_of_mem waits)
  | handedIn => exact .inl (Multiset.mem_cons_of_mem waits)
  | _ => exact .inl waits

/-- Whoever waits after a turn has waited before it or asks in it. -/
theorem waited_or_asks (turn : Turn intake store task? before after desk notes)
    (waits : waiter ∈ desk.awaiting) : waiter ∈ before.awaiting ∨ waiter.Asks task? notes := by
  cases turn with
  | received isAwaiting ready =>
      rw [isAwaiting]
      exact .inl (Multiset.mem_cons_of_mem waits)
  | refusedOutside isNext refusal =>
      rcases Multiset.mem_cons.1 waits with rfl | other
      · exact .inr ⟨isNext, rfl, rfl⟩
      · exact .inl other
  | handedIn isNext admitted =>
      rcases Multiset.mem_cons.1 waits with rfl | other
      · exact .inr ⟨isNext, rfl, rfl⟩
      · exact .inl other
  | _ => exact .inl waits

/-- An answer tells of no batch, or it is that of somebody who receives the response, having
waited for it or asking for it in this very turn. -/
theorem plain_or_returns (turn : Turn intake store task? before after desk notes) {origin : Origin}
    {answer : Answer} (answered : (origin, answer) ∈ Note.answers notes) :
    answer.IsPlain ∨ ∃ waiter response, waiter.Returns response notes ∧
      (waiter ∈ before.awaiting ∧ before.replies.lookup waiter.ticket = some response ∨
        waiter.Asks task? notes ∧ Note.completions notes = [(waiter.ticket, response)]) := by
  cases turn with
  | quiet silent => exact .inl (silent.plain answered)
  | @received ticket origin request response awaiting isAwaiting ready =>
      refine .inr ⟨⟨ticket, origin, request⟩, response, ⟨rfl, rfl⟩, .inl ⟨?_, ready⟩⟩
      rw [isAwaiting]
      exact Multiset.mem_cons_self _ _
  | @refusedInline origin request status isNext refusal =>
      exact .inr ⟨⟨before.tickets, origin, request⟩, _, ⟨rfl, rfl⟩, .inr ⟨⟨isNext, rfl, rfl⟩, rfl⟩⟩
  | @ranInline origin request _ response isNext admitted ran =>
      exact .inr ⟨⟨before.tickets, origin, request⟩, response, ⟨rfl, rfl⟩,
        .inr ⟨⟨isNext, rfl, rfl⟩, rfl⟩⟩
  | _ => cases answered

end Turn

/-- Whoever makes a call that waits asks for the response. -/
theorem Task.Calls.asks {place : Place} {store : Store} {intake : Intake} {rest : List Task}
    {origin : Origin} {request : Request} {progress : Progress}
    (calls : Calls place store intake rest origin (.submit request) progress) :
    (⟨intake.tickets, origin, request⟩ : Waiter).Asks (some (.perform origin (.submit request)))
      progress.notes := by
  cases calls with
  | answers waitsNot => cases waitsNot
  | _ => exact ⟨rfl, rfl, rfl⟩

/-- In the scene a call is made that waits for the response to its batch. -/
def Scene.Asks (scene : Scene) (waiter : Waiter) : Prop :=
  waiter.Asks (scene.session.task? scene.move) scene.step.notes

namespace Session

/-- What becomes of the calls of a course that wait for a response. -/
structure Returned (scenes : List Scene) (session : Session) : Prop where
  /-- Every such call asks for the response under the next ticket. -/
  asks : ∀ {scene : Scene} {origin : Origin} {request : Request}, scene ∈ scenes →
    scene.session.task? scene.move = some (.perform origin (.submit request)) →
      scene.Asks ⟨scene.session.intake.tickets, origin, request⟩
  /-- Whoever has asked waits or has received the response, not both, and only once. -/
  once : ∀ {scene : Scene} {waiter : Waiter}, scene ∈ scenes → scene.Asks waiter →
    session.desk.awaited.count waiter.ticket +
      (Note.receipts (Scene.history scenes)).count waiter.ticket = 1
  /-- The call of whoever does not wait any longer was answered with what the request makes of the
  response that its batch was completed with. -/
  settled : ∀ {scene : Scene} {waiter : Waiter}, scene ∈ scenes → scene.Asks waiter →
    waiter ∈ session.desk.awaiting ∨ ∃ later ∈ scenes, ∃ response,
      (waiter.ticket, response) ∈ Note.completions (Scene.history scenes) ∧
        waiter.Returns response later.step.notes
  /-- This is what the response conveys. -/
  conveyed : ∀ {scene : Scene} {waiter : Waiter} {response : Response}, scene ∈ scenes →
    scene.Asks waiter → (waiter.ticket, response) ∈ Note.completions (Scene.history scenes) →
      waiter.request.Conveys response (waiter.request.answer response)
  /-- No other answer tells of a batch. -/
  alone : ∀ {scene : Scene} {origin : Origin} {answer : Answer}, scene ∈ scenes →
    (origin, answer) ∈ Note.answers scene.step.notes →
      answer.IsPlain ∨ ∃ earlier ∈ scenes, ∃ waiter response, earlier.Asks waiter ∧
        (waiter.ticket, response) ∈ Note.completions (Scene.history scenes) ∧
          waiter.Returns response scene.step.notes

variable {config : Config} {moments : List Moment} {scenes : List Scene} {scene : Scene}
  {session : Session} {waiter : Waiter} {ticket : Nat} {origin : Origin} {request : Request}
  {response : Response}

theorem asks_of_move? {store : Store} {move : Move} {step : Step}
    (made : session.move? store move = some step)
    (isNext : session.task? move = some (.perform origin (.submit request))) :
    (⟨session.intake.tickets, origin, request⟩ : Waiter).Asks (session.task? move) step.notes := by
  rw [isNext]
  cases move with
  | arrive => cases isNext
  | caller index =>
      obtain ⟨before, task, rest, after, progress, -, isFirst, stepped, rfl⟩ :=
        exists_of_callerStep? made
      cases isFirst.symm.trans isNext
      cases Task.steps_of_step? stepped with
      | performs calls => exact calls.asks
  | worker =>
      have free (free : session.worker.tasks = []) : False := by
        rw [task?, free] at isNext
        cases isNext
      cases workerStep_of_workerStep? made with
      | task isTasks stepped =>
          rw [task?, isTasks] at isNext
          cases isNext
          cases Task.steps_of_step? stepped with
          | performs calls => exact calls.asks
      | replies resting => exact (free resting).elim
      | callsBack resting => exact (free resting).elim
      | runs resting => exact (free resting).elim
      | takes resting => exact (free resting).elim
  | release => cases isNext

/-- A thread that is to receive a response makes somebody wait. -/
theorem mem_awaiting_of_receive {index : Nat} {origin : Origin} {request : Request}
    {rest : List Task}
    (found : session.callers[index]? = some (.receive ticket origin request :: rest)) :
    ⟨ticket, origin, request⟩ ∈ session.desk.awaiting := by
  have isTask : .receive ticket origin request ∈ session.tasks :=
    List.mem_append_right _
      (List.mem_flatten.2 ⟨_, List.mem_of_getElem? found, List.mem_cons_self⟩)
  exact Multiset.mem_coe.2 (List.mem_filterMap.2 ⟨_, isTask, rfl⟩)

namespace Course

/-- Whoever waits has asked. -/
theorem asks_of_waits (course : Course config scenes session)
    (waits : waiter ∈ session.desk.awaiting) : ∃ scene ∈ scenes, scene.Asks waiter := by
  induction course with
  | opened success =>
      obtain ⟨-, rfl⟩ := openWith_eq_ok success
      cases waits
  | move course made ih =>
      rcases (turn_of_move? course.run.accounts.inOrder made).waited_or_asks waits with
        waited | asks
      · obtain ⟨scene, member, asks⟩ := ih waited
        exact ⟨scene, List.mem_append_left _ member, asks⟩
      · exact ⟨_, List.mem_append_right _ (List.mem_singleton_self _), asks⟩

/-- What was completed in the earlier part of a course has been completed. -/
theorem completed_of_prefix {earlier later : List Scene}
    (completed : (ticket, response) ∈ Note.completions (Scene.history earlier)) :
    (ticket, response) ∈ Note.completions (Scene.history (earlier ++ later)) := by
  rw [Scene.history_append, Note.completions_append]
  exact List.mem_append_left _ completed

theorem settled (course : Course config scenes session) (member : scene ∈ scenes)
    (asks : scene.Asks waiter) :
    waiter ∈ session.desk.awaiting ∨ ∃ later ∈ scenes, ∃ response,
      (waiter.ticket, response) ∈ Note.completions (Scene.history scenes) ∧
        waiter.Returns response later.step.notes := by
  induction course with
  | opened => cases member
  | @move scenes session store move step course made ih =>
      have turn := turn_of_move? course.run.accounts.inOrder made
      have isLast : (⟨session, store, move, step⟩ : Scene) ∈
          scenes ++ [⟨session, store, move, step⟩] :=
        List.mem_append_right _ (List.mem_singleton_self _)
      rcases List.mem_append.1 member with earlier | last
      · rcases ih earlier with waits | ⟨later, isLater, response, completed, returns⟩
        · rcases turn.waits_or_returns waits with still | ⟨response, ready, returns⟩
          · exact .inl still
          · exact .inr ⟨_, isLast, response,
              completed_of_prefix (course.balanced.completed_of_lookup ready), returns⟩
        · exact .inr ⟨later, List.mem_append_left _ isLater, response,
            completed_of_prefix completed, returns⟩
      · obtain rfl := List.mem_singleton.1 last
        rcases turn.waits_of_asks asks with waits | ⟨response, completed, returns⟩
        · exact .inl waits
        · refine .inr ⟨_, isLast, response, ?_, returns⟩
          rw [Scene.history_concat, Note.completions_append, completed]
          exact List.mem_append_right _ (List.mem_singleton_self _)

/-- The response under the ticket of whoever has asked came of the batch that was handed in. -/
theorem outcome (course : Course config scenes session) (member : scene ∈ scenes)
    (asks : scene.Asks waiter)
    (completed : (waiter.ticket, response) ∈ Note.completions (Scene.history scenes)) :
    Outcome config (scenes.map Scene.moment) waiter.ticket waiter.request.operations response := by
  have mine : (waiter.ticket, waiter.request.operations) ∈
      Note.submissions (Scene.history scenes) :=
    Scene.mem_history_of_only member asks.submitted
  obtain ⟨batch, submitted, outcome⟩ := course.run.outcome_of_completed completed
  -- No two batches have drawn the same ticket.
  have same : (waiter.ticket, batch) = (waiter.ticket, waiter.request.operations) :=
    List.inj_on_of_nodup_map course.balanced.nodup_submissions submitted mine rfl
  rw [(Prod.mk.inj same).2] at outcome
  exact outcome

/-- Every call of a course that waits for a response is answered once, with what its response
conveys, and no other answer tells of a batch. -/
theorem returned (course : Course config scenes session) : Returned scenes session where
  asks := by
    intro scene origin request member isNext
    obtain ⟨earlier, later, rfl⟩ := List.append_of_mem member
    exact asks_of_move? course.upTo.2 isNext
  once := by
    intro scene waiter member asks
    have asked : (waiter.ticket, waiter.origin) ∈ Note.asks (Scene.history scenes) :=
      Scene.mem_history_of_only member asks.asked
    exact course.balanced.count_awaited_add (List.mem_map_of_mem asked)
  settled := course.settled
  conveyed := fun member asks completed =>
    Request.conveys_of_outcome (course.outcome member asks completed)
  alone := by
    intro scene origin answer member answered
    rcases (course.turn member).plain_or_returns answered with
      plain | ⟨waiter, response, returns, ⟨waits, ready⟩ | ⟨asks, completed⟩⟩
    · exact .inl plain
    · obtain ⟨earlier, later, rfl⟩ := List.append_of_mem member
      obtain ⟨asking, isEarlier, asks⟩ := course.upTo.1.asks_of_waits waits
      exact .inr ⟨asking, List.mem_append_left _ isEarlier, waiter, response, asks,
        completed_of_prefix (course.upTo.1.balanced.completed_of_lookup ready), returns⟩
    · exact .inr ⟨scene, member, waiter, response, asks,
        Scene.mem_history_of_only member completed, returns⟩

end Course

/-- The response that somebody finds there came of the batch that was handed in. -/
theorem Run.outcome_of_ready (run : Run config moments session)
    (waits : ⟨ticket, origin, request⟩ ∈ session.desk.awaiting)
    (ready : session.intake.replies.lookup ticket = some response) :
    Outcome config moments ticket request.operations response := by
  obtain ⟨scenes, course, rfl⟩ := run.course
  obtain ⟨scene, member, asks⟩ := course.asks_of_waits waits
  exact course.outcome member asks (course.balanced.completed_of_lookup ready)

end Session

end BatchTree
