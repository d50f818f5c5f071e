import BatchTree.Proofs.Execution
import BatchTree.Proofs.Line

/-!
# Runs of a session

A run is any sequence of moves from the moment in which a session is opened.  Between two of
its moves the store may have been changed by others.  However the moves interleave, what is left
of a run agrees with what was noted of it (`Session.Run.accounts`, `Session.Run.inLine`).
-/

namespace BatchTree

/-- One move of a run: the store on which it was made, the store to which it led, and what
was noted of it. -/
structure Moment where
  before : Store
  after : Store
  notes : List Note

/-- Everything that was noted in a run. -/
def Moment.history (moments : List Moment) : List Note :=
  moments.flatMap Moment.notes

/-- What is noted of each move of a run. -/
theorem Moment.history_concat (moments : List Moment) (moment : Moment) :
    history (moments ++ [moment]) = history moments ++ moment.notes := by
  rw [history, List.flatMap_append, List.flatMap_singleton, history]

namespace Session

/-- The runs of a session under the given settings. -/
inductive Run (config : Config) : List Moment → Session → Prop where
  | opened {session : Session} (success : openWith config = .ok session) : Run config [] session
  | move {moments : List Moment} {session : Session} {step : Step}
      (run : Run config moments session) (store : Store) {move : Move}
      (made : session.move? store move = some step) :
      Run config (moments ++ [⟨store, step.store, step.notes⟩]) step.session

/-- The response answers the batch that was handed in under the ticket, and if it is a
commit the batch was committed. -/
structure Answers (config : Config) (moments : List Moment) (ticket : Nat) (batch : Batch)
    (response : Response) : Prop where
  submitted : (ticket, batch) ∈ Note.submissions (Moment.history moments)
  size_eq : response.size = batch.length
  executed : response.isCommitted = true → ∃ moment ∈ moments,
    .ran ticket response ∈ moment.notes ∧
      moment.before.execute config.limits batch = (moment.after, .answered response)

/-- What a run leaves behind agrees with what was noted of it. -/
structure Accounts (config : Config) (moments : List Moment) (session : Session) : Prop where
  inOrder : session.InOrder
  config_eq : session.intake.config = config
  balanced : session.desk.Balanced (Moment.history moments)
  held : ∀ submission ∈ session.desk.held,
    (submission.ticket, submission.batch) ∈ Note.submissions (Moment.history moments)
  finished : ∀ {submission : Submission} {response : Response},
    session.desk.finished = some (submission, response) →
      Answers config moments submission.ticket submission.batch response
  completed : ∀ {ticket : Nat} {response : Response},
    (ticket, response) ∈ Note.completions (Moment.history moments) →
      ∃ batch, Answers config moments ticket batch response

end Session

namespace Intake

variable {intake : Intake} {store after : Store} {batch : Batch} {response : Response}

/-- A batch that is run is answered operation by operation. -/
theorem size_of_run (ran : intake.run store batch = (after, response)) :
    response.size = batch.length := by
  unfold run at ran
  split at ran
  · split at ran
    · rename_i executed
      cases ran
      rw [← Store.response_of_execute executed]
      exact Tree.size_response_execute ..
    · cases ran
      exact Response.size_rejected ..
  · cases ran
    exact Response.size_rejected ..

/-- Only what the store has answered is reported as a commit. -/
theorem executed_of_run (ran : intake.run store batch = (after, response))
    (committed : response.isCommitted = true) :
    store.execute intake.config.limits batch = (after, .answered response) := by
  unfold run at ran
  split at ran
  · split at ran
    · rename_i executed
      cases ran
      exact executed
    · cases ran
      rw [Response.isCommitted_unavailable] at committed
      cases committed
  · cases ran
    rw [Response.isCommitted_unavailable] at committed
    cases committed

end Intake

namespace Session

variable {config : Config} {moments : List Moment} {moment : Moment} {session next : Session}
  {ticket : Nat} {batch : Batch} {response : Response}

theorem Answers.later (answers : Answers config moments ticket batch response)
    (moment : Moment) : Answers config (moments ++ [moment]) ticket batch response where
  submitted := by
    rw [Moment.history_concat, Note.submissions_append]
    exact List.mem_append_left _ answers.submitted
  size_eq := answers.size_eq
  executed := by
    intro committed
    obtain ⟨earlier, member, noted, executed⟩ := answers.executed committed
    exact ⟨earlier, List.mem_append_left _ member, noted, executed⟩

/-- The response to a batch that was handed in before and is run now. -/
theorem answers_of_run {intake : Intake} (sameConfig : intake.config = config)
    (submitted : (ticket, batch) ∈ Note.submissions (Moment.history (moments ++ [moment])))
    (ran : intake.run moment.before batch = (moment.after, response))
    (noted : .ran ticket response ∈ moment.notes) :
    Answers config (moments ++ [moment]) ticket batch response where
  submitted := submitted
  size_eq := Intake.size_of_run ran
  executed := by
    intro committed
    have executed := Intake.executed_of_run ran committed
    rw [sameConfig] at executed
    exact ⟨moment, List.mem_append_right _ (List.mem_singleton_self _), noted, executed⟩

/-- A session is opened with usable settings only, and there is nothing in it. -/
theorem openWith_eq_ok (success : openWith config = .ok session) :
    config.Usable ∧ session = { intake := { config } } := by
  rw [openWith] at success
  cases validated : config.validate with
  | error fault =>
      rw [validated] at success
      cases success
  | ok settings =>
      obtain ⟨rfl, usable⟩ := Config.usable_of_validate validated
      rw [validated] at success
      cases success
      exact ⟨usable, rfl⟩

/-- A session can be opened with usable settings. -/
theorem openWith_of_usable (usable : config.Usable) :
    openWith config = .ok { intake := { config } } := by
  rw [openWith, Config.validate_of_usable usable]
  rfl

theorem accounts_of_opened (success : openWith config = .ok session) :
    Accounts config [] session := by
  obtain ⟨-, rfl⟩ := openWith_eq_ok success
  constructor
  case inOrder => exact ⟨.nil, List.forall_mem_nil _⟩
  case config_eq => rfl
  case balanced => exact ⟨rfl, rfl, .refl _, rfl, .refl _, rfl⟩
  case held =>
    intro submission member
    exact absurd member (Multiset.notMem_zero submission)
  case finished =>
    intro submission response isFinished
    cases isFinished
  case completed =>
    intro ticket response member
    cases member

section Move

variable {store : Store} {step : Step}

/-- What is in custody has been handed in. -/
theorem submitted_of_turn {history : List Note}
    {intake : Intake} {after : Store} {task? : Option Task} {desk next : Desk} {notes : List Note}
    (turn : Turn intake store task? desk after next notes)
    (held : ∀ submission ∈ desk.held,
      (submission.ticket, submission.batch) ∈ Note.submissions history) :
    ∀ submission ∈ next.held,
      (submission.ticket, submission.batch) ∈ Note.submissions (history ++ notes) := by
  intro submission member
  rw [Note.submissions_append]
  rcases turn.keeps_or_takes_or_completes with
    ⟨kept, -⟩ | ⟨other, taken, isSubmitted, -⟩ | ⟨other, response, -, given, -, -⟩
  · rw [kept] at member
    exact List.mem_append_left _ (held submission member)
  · rw [taken, Multiset.mem_cons] at member
    rcases member with rfl | member
    · rw [isSubmitted]
      exact List.mem_append_right _ (List.mem_singleton_self _)
    · exact List.mem_append_left _ (held submission member)
  · apply List.mem_append_left
    apply held
    rw [given]
    exact Multiset.mem_cons_of_mem member

/-- A move adds up. -/
theorem Accounts.move {move : Move} (accounts : Accounts config moments session)
    (made : session.move? store move = some step) :
    Accounts config (moments ++ [⟨store, step.store, step.notes⟩]) step.session := by
  have turn := turn_of_move? accounts.inOrder made
  have heldAfter := submitted_of_turn turn accounts.held
  constructor
  case inOrder => exact accounts.inOrder.outlasts made
  case config_eq => rw [config_move? made, accounts.config_eq]
  case balanced =>
    rw [Moment.history_concat]
    exact accounts.balanced.turn turn
  case held =>
    rw [Moment.history_concat]
    exact heldAfter
  case finished =>
    intro submission response isFinished
    rcases turn.finished_before_or_ran isFinished with before | ⟨member, ran, noted⟩
    · exact (accounts.finished before).later _
    · have submitted := accounts.held submission member
      apply answers_of_run accounts.config_eq _ ran noted
      rw [Moment.history_concat, Note.submissions_append]
      exact List.mem_append_left _ submitted
  case completed =>
    intro ticket response member
    rw [Moment.history_concat, Note.completions_append] at member
    rcases List.mem_append.1 member with earlier | now
    · obtain ⟨batch, answers⟩ := accounts.completed earlier
      exact ⟨batch, answers.later _⟩
    · rcases turn.completed_cases now with
        ⟨submission, isFinished, rfl⟩ | ⟨batch, handedIn, turnedAway | ⟨ran, noted⟩⟩
      · exact ⟨submission.batch, (accounts.finished isFinished).later _⟩
      · obtain ⟨status, refusal, rfl, -⟩ := turnedAway
        refine ⟨batch, ?_, Response.size_rejected .., ?_⟩
        · rw [Moment.history_concat, Note.submissions_append]
          exact List.mem_append_right _ handedIn
        · intro committed
          rw [Response.isCommitted_rejected _ refusal.ne_ok] at committed
          cases committed
      · refine ⟨batch, answers_of_run accounts.config_eq ?_ ran noted⟩
        rw [Moment.history_concat, Note.submissions_append]
        exact List.mem_append_right _ handedIn

end Move

theorem Run.accounts (run : Run config moments session) : Accounts config moments session := by
  induction run with
  | opened success => exact accounts_of_opened success
  | move _ store made ih => exact ih.move made

theorem Run.usable (run : Run config moments session) : config.Usable := by
  induction run with
  | opened success => exact (openWith_eq_ok success).1
  | move _ _ _ ih => exact ih

theorem Run.inLine (run : Run config moments session) :
    session.desk.InLine (Moment.history moments) := by
  induction run with
  | opened success =>
      obtain ⟨-, rfl⟩ := openWith_eq_ok success
      exact ⟨(fun noted => nomatch noted), List.forall_mem_nil _, rfl⟩
  | move run store made ih =>
      rw [Moment.history_concat]
      exact ih.turn run.accounts.balanced (turn_of_move? run.accounts.inOrder made)

theorem mem_runs_of_noted (member : moment ∈ moments)
    (noted : .ran ticket response ∈ moment.notes) :
    (ticket, response) ∈ Note.runs (Moment.history moments) :=
  List.mem_filterMap.2 ⟨_, List.mem_flatMap.2 ⟨moment, member, noted⟩, rfl⟩

/-- Make one move after the other, and leave out those that cannot be made. -/
def play (store : Store) (session : Session) : List Move → List Moment × Store × Session
  | [] => ([], store, session)
  | move :: rest =>
      match session.move? store move with
      | none => session.play store rest
      | some step =>
          let others := step.session.play step.store rest
          (⟨store, step.store, step.notes⟩ :: others.1, others.2)

theorem Run.play (run : Run config moments session) (store : Store) (moves : List Move) :
    Run config (moments ++ (session.play store moves).1) (session.play store moves).2.2 := by
  induction moves generalizing moments session store with
  | nil => simpa [Session.play] using run
  | cons move rest ih =>
      rw [Session.play]
      cases made : session.move? store move with
      | none => exact ih run store
      | some step =>
          have others := ih (run.move store made) step.store
          rw [List.append_assoc] at others
          exact others

theorem run_of_play (usable : config.Usable) (store : Store) (moves : List Move) :
    let played := play store { intake := { config } } moves
    Run config played.1 played.2.2 :=
  (Run.opened (openWith_of_usable usable)).play store moves

end Session

end BatchTree
