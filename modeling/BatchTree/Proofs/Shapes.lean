import BatchTree.Proofs.Batching
import BatchTree.Proofs.Deeds
import BatchTree.Proofs.Delivery
import BatchTree.Proofs.Scenes

/-!
# The shapes of responses

A response tells that its batch was committed, that it was aborted for one operation, or that
it was rejected as a whole.  Whichever it is, the replies stand at the places of the operations
that they answer, and of a commit the events come in the order of the operations that they tell
of.  This holds of what the store answers (`Store.reports_execute`) and of all that a
session completes, by whatever route (`Session.Run.outcome_of_completed`).  There is one exception
in a session: if a watcher breaks down when it is told of a commit, the batch has taken effect, and
its response has the shape of a rejection.
-/

namespace BatchTree

variable {limits : Limits}

/-- The deed was answered as its operation asks for, and this is the event that tells of it in
batch `zxid`; there is none of a check. -/
inductive Deed.Tells (zxid : Zxid) (deed : Deed) : Option Event → Prop where
  | created {text : String} {data : Payload} {mode : CreateMode} {target : Path}
      (asked : deed.operation = .create text data mode)
      (names : deed.before.Names text mode target) (answered : deed.reply = .created target.text) :
      Tells zxid deed (some ⟨target, .created, zxid⟩)
  | deleted {text : String} {version : Version} {target : Path}
      (asked : deed.operation = .delete text version) (read : Path.parse text = .ok target)
      (answered : deed.reply = .deleted) : Tells zxid deed (some ⟨target, .deleted, zxid⟩)
  | dataSet {text : String} {data : Payload} {version : Version} {target : Path} {node : Node}
      (asked : deed.operation = .setData text data version) (read : Path.parse text = .ok target)
      (found : deed.after.get? target = some node) (answered : deed.reply = .dataSet node.stat) :
      Tells zxid deed (some ⟨target, .dataChanged, zxid⟩)
  | checked {text : String} {version : Version} (asked : deed.operation = .check text version)
      (answered : deed.reply = .checked) : Tells zxid deed none

namespace Response

/-- The batch took effect: its deeds lead to the tree that it leaves, each operation has the
reply of its deed, and each change its event. -/
structure IsCommit (limits : Limits) (before : Tree) (batch : Batch) (after : Tree)
    (response : Response) (events : List Event) : Prop where
  size_eq : response.size = batch.length
  outcome_eq : response.outcome = .ok
  failedIndex_eq : response.failedIndex = none
  zxid_eq : response.zxid = if batch = [] then none else some (before.zxid + 1)
  leads : Leads before.get? ((Overlay.ofTree before).deeds limits batch) after.get?
  operations_eq : ((Overlay.ofTree before).deeds limits batch).map Deed.operation = batch
  replies_eq : ((Overlay.ofTree before).deeds limits batch).map Deed.reply = response.replies
  told : ∃ told, List.Forall₂ (Deed.Tells (before.zxid + 1))
    ((Overlay.ofTree before).deeds limits batch) told ∧ events = told.reduceOption

/-- The batch was rolled back because operation `index` was refused with `status`, when those
before it had passed. -/
structure IsAbort (limits : Limits) (before : Tree) (batch : Batch) (index : Nat)
    (status : Status) (response : Response) : Prop where
  refusal : status ∈ Overlay.refusals
  within : index < batch.length
  size_eq : response.size = batch.length
  outcome_eq : response.outcome = status
  failedIndex_eq : response.failedIndex = some index
  zxid_eq : response.zxid = none
  reply_eq : ∀ {position : Nat}, position < batch.length → response.replies[position]? =
    some (.failed (if position = index then status else .transactionAborted))
  refused : ∃ overlay replies operation,
    (Overlay.ofTree before).validateAll limits 0 (batch.take index) = .ok (overlay, replies) ∧
      batch[index]? = some operation ∧ overlay.validate limits operation = .error status

/-- The batch was refused as a whole. -/
structure IsRejection (batch : Batch) (status : Status) (response : Response) : Prop where
  size_eq : response.size = batch.length
  outcome_eq : response.outcome = status
  failedIndex_eq : response.failedIndex = none
  zxid_eq : response.zxid = none
  replies_eq : response.replies = List.replicate batch.length (.failed status)

theorem isRejection_rejected (batch : Batch) (status : Status) :
    (rejected batch.length status).IsRejection batch status :=
  ⟨size_rejected _ _, rfl, rfl, rfl, rfl⟩

end Response

namespace Deed

/-- Every deed tells of what it has logged. -/
theorem tells (deed : Deed) (zxid : Zxid) : ∃ told, deed.Tells zxid told ∧
    deed.after.log.map (·.event zxid) =
      deed.before.log.map (·.event zxid) ++ told.toList := by
  obtain ⟨limits, before, operation, after, reply, accepts⟩ := deed
  have logged {edit : Edit} (stages : before.Stages edit after) :
      after.log.map (·.event zxid) =
        before.log.map (·.event zxid) ++ [(edit.change after.get?).event zxid] := by
    rw [stages.log_eq, List.map_append, List.map_singleton]
  cases accepts with
  | create _ names stages => exact ⟨_, .created rfl names rfl, logged stages⟩
  | delete read _ _ stages => exact ⟨_, .deleted rfl read rfl, logged stages⟩
  | setData _ read found _ stages =>
      obtain ⟨node, isNode, isAfter⟩ := stages.step.node_of_setData
      rw [found, Option.some.injEq] at isNode
      subst isNode
      exact ⟨_, .dataSet rfl read isAfter rfl, logged stages⟩
  | check => exact ⟨none, .checked rfl rfl, (List.append_nil _).symm⟩

end Deed

namespace Overlay

/-- The log of a batch that passes tells of its deeds in order. -/
theorem tells_deeds (zxid : Zxid) {index : Nat} {overlay final : Overlay} {batch : Batch}
    {replies : List Reply}
    (success : overlay.validateAll limits index batch = .ok (final, replies)) :
    ∃ told, List.Forall₂ (Deed.Tells zxid) (overlay.deeds limits batch) told ∧
      final.log.map (·.event zxid) = overlay.log.map (·.event zxid) ++ told.reduceOption := by
  induction batch generalizing index overlay replies with
  | nil =>
      simp only [validateAll, Except.ok.injEq, Prod.mk.injEq] at success
      obtain ⟨rfl, rfl⟩ := success
      exact ⟨[], .nil, (List.append_nil _).symm⟩
  | cons operation rest ih =>
      obtain ⟨staged, reply, others, passed, passedAll, rfl⟩ := ok_of_validateAll_cons success
      obtain ⟨told, tells, logged⟩ := ih passedAll
      let deed : Deed := ⟨limits, overlay, operation, staged, reply, accepts_of_validate passed⟩
      obtain ⟨first, tellsFirst, loggedFirst⟩ := deed.tells zxid
      rw [deeds_cons_of_ok passed]
      refine ⟨first :: told, .cons tellsFirst tells, ?_⟩
      rw [logged, loggedFirst, List.append_assoc]
      cases first <;> rfl

/-- If a batch fails, those before one operation pass, and that one is refused. -/
theorem refused_of_validateAll {start index : Nat} {overlay : Overlay} {batch : Batch}
    {status : Status} (failure : overlay.validateAll limits start batch = .error (index, status)) :
    ∃ offset staged replies operation, index = start + offset ∧
      overlay.validateAll limits start (batch.take offset) = .ok (staged, replies) ∧
      batch[offset]? = some operation ∧ staged.validate limits operation = .error status := by
  induction batch generalizing start overlay with
  | nil => cases failure
  | cons operation rest ih =>
      unfold validateAll at failure
      split at failure
      · rename_i refused
        cases failure
        exact ⟨0, overlay, [], operation, rfl, rfl, rfl, refused⟩
      · rename_i staged reply passed
        split at failure
        · rename_i refusedLater
          cases failure
          obtain ⟨offset, last, replies, other, isIndex, passedAll, isOperation, refused⟩ :=
            ih refusedLater
          refine ⟨offset + 1, last, reply :: replies, other, ?_, ?_, isOperation, refused⟩
          · rw [isIndex, Nat.add_assoc, Nat.add_comm 1]
          · rw [List.take_succ_cons, validateAll, passed]
            dsimp only
            rw [passedAll]
        · cases failure

end Overlay

namespace Response

theorem isAbort_aborted {before : Tree} {batch : Batch} {index : Nat} {status : Status}
    (failure : (Overlay.ofTree before).validateAll limits 0 batch = .error (index, status)) :
    (aborted batch.length index status).IsAbort limits before batch index status where
  refusal := Overlay.validateAll_refusal failure
  within := by
    have bounds := Overlay.index_of_validateAll failure
    omega
  size_eq := size_aborted ..
  outcome_eq := rfl
  failedIndex_eq := rfl
  zxid_eq := rfl
  reply_eq := by
    intro position within
    simp [aborted, within]
  refused := by
    obtain ⟨offset, overlay, replies, operation, isIndex, passed, isOperation, refused⟩ :=
      Overlay.refused_of_validateAll failure
    rw [Nat.zero_add] at isIndex
    subst isIndex
    exact ⟨overlay, replies, operation, passed, isOperation, refused⟩

theorem isCommit_empty (before : Tree) :
    (committed [] none).IsCommit limits before [] before [] where
  size_eq := rfl
  outcome_eq := rfl
  failedIndex_eq := rfl
  zxid_eq := rfl
  leads := .nil _
  operations_eq := rfl
  replies_eq := rfl
  told := ⟨[], .nil, rfl⟩

theorem isCommit_committed {before : Tree} {batch : Batch} {overlay : Overlay}
    {replies : List Reply} (nonempty : batch ≠ [])
    (success : (Overlay.ofTree before).validateAll limits 0 batch = .ok (overlay, replies)) :
    (committed replies (some overlay.toChangeSet.zxid)).IsCommit limits before batch
      (before.apply overlay.toChangeSet) overlay.toChangeSet.events := by
  have base : overlay.base = before := (Overlay.acceptsAll_of_validateAll success).base_eq
  obtain ⟨-, operations, answers⟩ := Overlay.leads_deeds success
  obtain ⟨told, tells, logged⟩ := Overlay.tells_deeds (before.zxid + 1) success
  constructor
  case size_eq => exact (Overlay.acceptsAll_of_validateAll success).length_replies
  case outcome_eq => rfl
  case failedIndex_eq => rfl
  case zxid_eq =>
    rw [if_neg nonempty, ← base]
    rfl
  case leads => exact Tree.leads_deeds_of_ok success
  case operations_eq => exact operations
  case replies_eq => exact answers
  case told =>
    rw [← base] at logged
    exact ⟨told, tells, logged⟩

end Response

namespace Store

/-- What can come of a batch that the store executes: it is committed and the watchers are told
of it, or the store stays as it is.  If a watcher breaks down there is no response, though the
batch took effect. -/
inductive Reports (limits : Limits) (store : Store) (batch : Batch) : Store × Execution → Prop where
  | committed {after : Store} {response : Response} {events : List Event}
      (commit : response.IsCommit limits store.tree batch after.tree events)
      (fired : store.watchers.fire events = (after.watchers, true)) :
      Reports limits store batch (after, .answered response)
  | aborted {response : Response} {index : Nat} {status : Status}
      (abort : response.IsAbort limits store.tree batch index status) :
      Reports limits store batch (store, .answered response)
  | rejected {response : Response} (rejection : response.IsRejection batch .unavailable) :
      Reports limits store batch (store, .answered response)
  | interrupted {after : Store} {response : Response} {events : List Event}
      (commit : response.IsCommit limits store.tree batch after.tree events)
      (fired : store.watchers.fire events = (after.watchers, false)) :
      Reports limits store batch (after, .interrupted)

theorem reports_execute (limits : Limits) (store : Store) (batch : Batch) :
    store.Reports limits batch (store.execute limits batch) := by
  generalize effect : store.tree.execute limits batch = ended
  have ends : store.tree.Ends limits batch ended := effect ▸ Tree.ends_execute ..
  cases ends with
  | empty =>
      rw [execute_unaffected effect]
      exact .committed (Response.isCommit_empty _) rfl
  | aborted _ failure =>
      rw [execute_unaffected effect]
      exact .aborted (Response.isAbort_aborted failure)
  | refused =>
      rw [execute_unaffected effect]
      exact .rejected (Response.isRejection_rejected batch .unavailable)
  | committed nonempty success _ =>
      have commit := Response.isCommit_committed nonempty success
      rw [execute, effect]
      dsimp only
      split
      · rename_i fired
        exact .committed commit fired
      · rename_i fired
        exact .interrupted commit fired

end Store

namespace Intake

variable {intake : Intake} {store after : Store} {batch : Batch} {response : Response}

/-- Without authority a batch whose turn comes is not run. -/
theorem run_of_not_authoritative (lost : intake.authoritative = false)
    (ran : intake.run store batch = (after, response)) :
    after = store ∧ response = .rejected batch.length .unavailable := by
  rw [run, lost] at ran
  cases ran
  exact ⟨rfl, rfl⟩

/-- With authority it is executed; if a watcher breaks down, it is reported as unavailable. -/
theorem run_of_authoritative (authoritative : intake.authoritative = true)
    (ran : intake.run store batch = (after, response)) :
    store.execute intake.config.limits batch = (after, .answered response) ∨
      store.execute intake.config.limits batch = (after, .interrupted) ∧
        response = .rejected batch.length .unavailable := by
  rw [run, if_pos authoritative] at ran
  split at ran
  · rename_i executed
    cases ran
    exact .inl executed
  · rename_i executed
    cases ran
    exact .inr ⟨executed, rfl⟩

end Intake

namespace Session

/-- How a batch came to its response.  It was run and answered by the store; or the session was
not to run it, or turned it away; or it took effect and a watcher that could break down did so when
it was told of this. -/
inductive Outcome (config : Config) (moments : List Moment) (ticket : Nat) (batch : Batch)
    (response : Response) : Prop where
  | answered {moment : Moment} (member : moment ∈ moments)
      (noted : (ticket, response) ∈ Note.runs moment.notes)
      (reports : moment.before.Reports config.limits batch (moment.after, .answered response))
  | turnedAway {status : Status}
      (notRun : ticket ∉ (Note.runs (Moment.history moments)).map Prod.fst)
      (refusal : status = .unavailable ∨
        status = .badArguments ∧ config.maxBatchSize < batch.length)
      (rejection : response.IsRejection batch status)
  | interrupted {moment : Moment} (member : moment ∈ moments)
      (noted : (ticket, response) ∈ Note.runs moment.notes)
      (breakable : ¬moment.before.Sound)
      (reports : moment.before.Reports config.limits batch (moment.after, .interrupted))
      (rejection : response.IsRejection batch .unavailable)

variable {config : Config} {moments : List Moment} {session : Session} {ticket : Nat}
  {batch : Batch} {response : Response}

/-- What is run is answered by the store, unless a watcher breaks down. -/
theorem outcome_of_run {intake : Intake} {moment : Moment} (sameConfig : intake.config = config)
    (member : moment ∈ moments) (noted : (ticket, response) ∈ Note.runs moment.notes)
    (ran : intake.run moment.before batch = (moment.after, response)) :
    Outcome config moments ticket batch response := by
  cases authority : intake.authoritative with
  | false =>
      obtain ⟨same, rfl⟩ := Intake.run_of_not_authoritative authority ran
      refine .answered member noted ?_
      rw [same]
      exact .rejected (Response.isRejection_rejected batch .unavailable)
  | true =>
      rcases Intake.run_of_authoritative authority ran with answered | ⟨interrupted, rfl⟩
      · rw [sameConfig] at answered
        refine .answered member noted ?_
        rw [← answered]
        exact moment.before.reports_execute config.limits batch
      · rw [sameConfig] at interrupted
        have reports := moment.before.reports_execute config.limits batch
        rw [interrupted] at reports
        refine .interrupted member noted ?_ reports
          (Response.isRejection_rejected batch .unavailable)
        intro sound
        obtain ⟨after, -, -, isAnswered⟩ := sound.execute config.limits batch
        rw [interrupted] at isAnswered
        cases isAnswered

/-- However a batch is completed, there is an account of its response. -/
theorem Run.outcome_of_completed (run : Run config moments session)
    (completed : (ticket, response) ∈ Note.completions (Moment.history moments)) :
    ∃ batch, (ticket, batch) ∈ Note.submissions (Moment.history moments) ∧
      Outcome config moments ticket batch response := by
  obtain ⟨scenes, course, rfl⟩ := run.course
  obtain ⟨batch, submitted, ⟨scene, member, runs⟩ | ⟨scene, member, status, turnedAway, rfl⟩⟩ :=
    course.explained.completed completed
  · exact ⟨batch, submitted,
      outcome_of_run (course.config_eq member) (List.mem_map_of_mem member) runs.noted runs.ran⟩
  · have refusal := turnedAway.refusal
    rw [Intake.Refuses, course.config_eq member] at refusal
    exact ⟨batch, submitted,
      .turnedAway (course.explained.turnedAway member turnedAway) refusal
        (Response.isRejection_rejected batch status)⟩

/-- In a move of a run either nothing is run and the store stays as it is, or one batch is run. -/
theorem Run.idle_or_runs (run : Run config moments session) {moment : Moment}
    (member : moment ∈ moments) :
    moment.after = moment.before ∧ Note.runs moment.notes = [] ∨
      ∃ ticket response, Note.runs moment.notes = [(ticket, response)] := by
  obtain ⟨scenes, course, rfl⟩ := run.course
  obtain ⟨scene, isScene, rfl⟩ := List.mem_map.1 member
  rcases course.idle_or_runs isScene with idle | ⟨ticket, batch, response, -, onlyRun, -⟩
  · exact .inl idle
  · exact .inr ⟨ticket, response, onlyRun⟩

end Session

end BatchTree
