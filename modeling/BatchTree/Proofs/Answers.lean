import BatchTree.Proofs.Shapes

/-!
# Answers to requests

Who asks for a batch is answered with the response to it.  Who asks for one operation is answered
with what the response to its batch tells of it: the path that was created, the new record of the
node, that it was done, or else the whole response as a failure.  However the batch came to its
response, the reply that the answer is read from is there and of the right kind
(`Request.conveys_of_outcome`).
-/

namespace BatchTree

/-- One operation is asked for. -/
def Request.IsSingle : Request → Prop
  | batch _ => False
  | built _ => False
  | _ => True

/-- The answer to a request for one operation, if this is the response to its batch: what the
only reply says if the batch was committed, and otherwise all that the response says. -/
inductive Request.Told (response : Response) : Request → Answer → Prop where
  | created {path target : String} {data : Payload} {mode : CreateMode} {zxid : Zxid}
      (commit : response = .committed [.created target] (some zxid)) :
      Told response (.create path data mode) (.path target)
  | deleted {path : String} {version : Version} {zxid : Zxid}
      (commit : response = .committed [.deleted] (some zxid)) :
      Told response (.delete path version) .done
  | dataSet {path : String} {data : Payload} {version : Version} {stat : Stat} {zxid : Zxid}
      (commit : response = .committed [.dataSet stat] (some zxid)) :
      Told response (.setData path data version) (.stat stat)
  | checked {path : String} {version : Version} {zxid : Zxid}
      (commit : response = .committed [.checked] (some zxid)) :
      Told response (.check path version) .done
  | refused {request : Request} (single : request.IsSingle)
      (refusal : response.isCommitted = false) :
      Told response request
        (.failed (.batch response.outcome response.failedIndex response.replies))

/-- The answer conveys the response to the batch of a request: it is the response itself, together
with the kinds of the operations if these were collected by a builder, or it is what the response
tells of the only operation. -/
inductive Request.Conveys (response : Response) : Request → Answer → Prop where
  | batch {operations : Batch} : Conveys response (.batch operations) (.response response)
  | built {builder : BatchBuilder} :
      Conveys response (.built builder) (.committed builder.kinds response)
  | single {request : Request} {answer : Answer} (told : request.Told response answer) :
      Conveys response request answer

namespace Response

variable {limits : Limits} {before after : Tree} {batch : Batch} {response : Response}

/-- A commit of one operation has the reply of its deed and no other. -/
theorem IsCommit.exists_of_single {operation : Operation} {events : List Event}
    (commit : response.IsCommit limits before [operation] after events) :
    ∃ (deed : Deed) (event? : Option Event), deed.operation = operation ∧
      deed.Tells (before.zxid + 1) event? ∧
      response = .committed [deed.reply] (some (before.zxid + 1)) := by
  obtain ⟨told, tells, -⟩ := commit.told
  have operations := commit.operations_eq
  have replies := commit.replies_eq
  generalize (Overlay.ofTree before).deeds limits [operation] = deeds at tells operations replies
  obtain ⟨deed, rfl, rfl⟩ := List.map_eq_singleton_iff.1 operations
  obtain ⟨event?, -, tells, -, -⟩ := List.forall₂_cons_left_iff.1 tells
  have zxid := commit.zxid_eq
  rw [if_neg (List.cons_ne_nil _ _)] at zxid
  refine ⟨deed, event?, rfl, tells, ?_⟩
  have outcome := commit.outcome_eq
  have failedIndex := commit.failedIndex_eq
  cases response
  simp only [List.map_singleton] at replies outcome failedIndex zxid
  rw [committed, outcome, failedIndex, zxid, ← replies]

theorem IsAbort.isCommitted_eq {index : Nat} {status : Status}
    (abort : response.IsAbort limits before batch index status) : response.isCommitted = false := by
  rw [isCommitted, ← Bool.not_eq_true, Status.isOk_iff, abort.outcome_eq]
  rintro rfl
  exact absurd abort.refusal (by decide)

theorem IsRejection.isCommitted_eq {status : Status} (rejection : response.IsRejection batch status)
    (refusal : status ≠ .ok) : response.isCommitted = false := by
  rw [isCommitted, ← Bool.not_eq_true, Status.isOk_iff, rejection.outcome_eq]
  exact refusal

end Response

namespace Request

variable {limits : Limits} {request : Request} {response : Response} {store after : Store}

theorem told_of_not_committed (single : request.IsSingle)
    (refusal : response.isCommitted = false) :
    request.Told response (request.answer response) := by
  have failed : request.answer response =
      .failed (.batch response.outcome response.failedIndex response.replies) := by
    cases request with
    | batch => cases single
    | built => cases single
    | _ => simp [answer, singleAnswer, Response.toExcept, refusal]
  rw [failed]
  exact .refused single refusal

/-- The only reply to a batch that was committed is of the kind that the request reads. -/
theorem told_of_isCommit (single : request.IsSingle) {before after : Tree} {events : List Event}
    (commit : response.IsCommit limits before request.operations after events) :
    request.Told response (request.answer response) := by
  cases request with
  | batch => cases single
  | built => cases single
  | create path data mode =>
      obtain ⟨deed, event?, isOperation, tells, rfl⟩ := commit.exists_of_single
      cases tells with
      | created asked names answered =>
          rw [answered]
          exact .created rfl
      | _ => simp_all
  | delete path version =>
      obtain ⟨deed, event?, isOperation, tells, rfl⟩ := commit.exists_of_single
      cases tells with
      | deleted asked read answered =>
          rw [answered]
          exact .deleted rfl
      | _ => simp_all
  | setData path data version =>
      obtain ⟨deed, event?, isOperation, tells, rfl⟩ := commit.exists_of_single
      cases tells with
      | dataSet asked read found answered =>
          rw [answered]
          exact .dataSet rfl
      | _ => simp_all
  | check path version =>
      obtain ⟨deed, event?, isOperation, tells, rfl⟩ := commit.exists_of_single
      cases tells with
      | checked asked answered =>
          rw [answered]
          exact .checked rfl
      | _ => simp_all

theorem told_of_reports (single : request.IsSingle)
    (reports : store.Reports limits request.operations (after, .answered response)) :
    request.Told response (request.answer response) := by
  cases reports with
  | committed commit => exact told_of_isCommit single commit
  | aborted abort => exact told_of_not_committed single abort.isCommitted_eq
  | rejected rejection =>
      exact told_of_not_committed single (rejection.isCommitted_eq Status.noConfusion)

theorem told_of_run {intake : Intake} (single : request.IsSingle)
    (ran : intake.run store request.operations = (after, response)) :
    request.Told response (request.answer response) := by
  cases authority : intake.authoritative with
  | false =>
      obtain ⟨-, rfl⟩ := Intake.run_of_not_authoritative authority ran
      exact told_of_not_committed single (Response.isCommitted_unavailable _)
  | true =>
      rcases Intake.run_of_authoritative authority ran with answered | ⟨-, rfl⟩
      · have reports := store.reports_execute intake.config.limits request.operations
        rw [answered] at reports
        exact told_of_reports single reports
      · exact told_of_not_committed single (Response.isCommitted_unavailable _)

theorem told_of_refuses {intake : Intake} {status : Status} (single : request.IsSingle)
    (refusal : intake.Refuses request.operations status) :
    let response := Response.rejected request.operations.length status
    request.Told response (request.answer response) :=
  told_of_not_committed single (Response.isCommitted_rejected _ refusal.ne_ok)

/-- However the batch came to its response, the request is answered with what this tells. -/
theorem told_of_outcome {config : Config} {moments : List Moment} {ticket : Nat}
    (single : request.IsSingle)
    (outcome : Session.Outcome config moments ticket request.operations response) :
    request.Told response (request.answer response) := by
  cases outcome with
  | answered _ _ reports => exact told_of_reports single reports
  | interrupted _ _ _ _ rejection =>
      exact told_of_not_committed single (rejection.isCommitted_eq Status.noConfusion)
  | turnedAway _ refusal rejection =>
      refine told_of_not_committed single (rejection.isCommitted_eq ?_)
      rcases refusal with rfl | ⟨rfl, -⟩
      · exact Status.noConfusion
      · exact Status.noConfusion

/-- However a batch came to its response, this is what the answer to the request conveys. -/
theorem conveys_of_outcome {config : Config} {moments : List Moment} {ticket : Nat}
    (outcome : Session.Outcome config moments ticket request.operations response) :
    request.Conveys response (request.answer response) := by
  cases request with
  | batch => exact .batch
  | built => exact .built
  | _ => exact .single (told_of_outcome trivial outcome)

theorem length_operations (single : request.IsSingle) : request.operations.length = 1 := by
  cases request with
  | batch => cases single
  | built => cases single
  | _ => rfl

end Request

end BatchTree
