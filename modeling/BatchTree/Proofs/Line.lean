import BatchTree.Proofs.Custody

/-!
# The line

Batches are run in the order in which they have joined the queue: the worker takes the first of
them, and runs it before it takes the next.  What the worker runs for one of its own completions
never joins the line.
-/

namespace BatchTree

namespace Desk

/-- The tickets of the batches that have joined the queue and have been run, in the order in
which they were run. -/
def served (history : List Note) : List Nat :=
  ((Note.runs history).map Prod.fst).filter fun ticket => ticket ∈ Note.entries history

/-- The batches that have joined the queue and are still to be run, in this order: the one that
the worker has taken, and those in the queue. -/
def line (desk : Desk) : List Submission :=
  desk.taken.toList ++ desk.queue

/-- The batches that are still to be run, in line or not. -/
def pending (desk : Desk) : Multiset Submission :=
  desk.waiting + desk.taken.toList

/-- What has joined the queue has been run in the same order or stands in line, and what was run
has been completed or is about to be. -/
structure InLine (desk : Desk) (history : List Note) : Prop where
  ran : ∀ {ticket : Nat} {response : Response}, (ticket, response) ∈ Note.runs history →
    (ticket, response) ∈ Note.completions history ∨
      ∃ submission, desk.finished = some (submission, response) ∧ submission.ticket = ticket
  entered : ∀ ticket ∈ Note.entries history, ticket < desk.tickets
  order : served history ++ desk.line.map Submission.ticket = Note.entries history

variable {desk : Desk} {history notes : List Note} {ticket : Nat}

/-- What is in custody is still to be run, or was run and is about to be completed. -/
theorem held_eq (desk : Desk) :
    desk.held = desk.pending + ((desk.finished.map Prod.fst).toList : Multiset Submission) :=
  (add_assoc _ _ _).symm

/-- What was run is about to be completed, or has been. -/
theorem InLine.mem_of_ran (inLine : desk.InLine history)
    (ran : ticket ∈ (Note.runs history).map Prod.fst) :
    ticket ∈ ((desk.finished.map Prod.fst).toList : Multiset Submission).map Submission.ticket +
      ((Note.completions history).map Prod.fst : List Nat) := by
  obtain ⟨⟨ticket, response⟩, noted, rfl⟩ := List.mem_map.1 ran
  rw [Multiset.mem_add]
  rcases inLine.ran noted with completed | ⟨submission, isFinished, rfl⟩
  · exact .inr (List.mem_map_of_mem completed)
  · rw [isFinished]
    exact .inl (Multiset.mem_singleton_self _)

/-- What was run has drawn a ticket. -/
theorem InLine.lt_of_ran (inLine : desk.InLine history) (balanced : desk.Balanced history)
    (ran : ticket ∈ (Note.runs history).map Prod.fst) : ticket < desk.tickets := by
  rw [← Multiset.mem_range, ← balanced.custody, held_eq, Multiset.map_add, add_assoc,
    Multiset.mem_add]
  exact .inr (inLine.mem_of_ran ran)

/-- What is still to be run has not been run. -/
theorem InLine.notMem_runs_of_pending (inLine : desk.InLine history)
    (balanced : desk.Balanced history) {submission : Submission}
    (isPending : submission ∈ desk.pending) :
    submission.ticket ∉ (Note.runs history).map Prod.fst := by
  have distinct := balanced.nodup_custody
  rw [held_eq, Multiset.map_add, add_assoc, Multiset.nodup_add] at distinct
  intro ran
  exact Multiset.disjoint_left.1 distinct.2.2
    (Multiset.mem_map_of_mem Submission.ticket isPending) (inLine.mem_of_ran ran)

/-- A batch that has not been run joins the end of the line. -/
theorem served_append_of_entry (notRun : ticket ∉ (Note.runs history).map Prod.fst)
    (silent : Note.runs notes = []) (joins : Note.entries notes = [ticket]) :
    served (history ++ notes) = served history := by
  rw [served, served, Note.runs_append, Note.entries_append, silent, joins, List.append_nil]
  apply List.filter_congr
  intro other member
  have different : other ≠ ticket := by
    rintro rfl
    exact notRun member
  simp [different]

/-- A batch that is run without having joined the line passes it by. -/
theorem served_append_of_inline {response : Response} (notEntered : ticket ∉ Note.entries history)
    (ran : Note.runs notes = [(ticket, response)]) (silent : Note.entries notes = []) :
    served (history ++ notes) = served history := by
  rw [served, served, Note.runs_append, Note.entries_append, silent, ran, List.append_nil,
    List.map_append, List.filter_append]
  simp [notEntered]

theorem served_append_of_run {response : Response} (entered : ticket ∈ Note.entries history)
    (ran : Note.runs notes = [(ticket, response)]) (silent : Note.entries notes = []) :
    served (history ++ notes) = served history ++ [ticket] := by
  rw [served, served, Note.runs_append, Note.entries_append, silent, ran, List.append_nil,
    List.map_append, List.filter_append]
  simp [entered]

theorem served_append_of_silent (noRun : Note.runs notes = []) (noEntry : Note.entries notes = []) :
    served (history ++ notes) = served history := by
  rw [served, served, Note.runs_append, Note.entries_append, noRun, noEntry, List.append_nil,
    List.append_nil]

/-- What is in custody has drawn a ticket. -/
theorem Balanced.lt_of_held (balanced : desk.Balanced history) {submission : Submission}
    (held : submission ∈ desk.held) : submission.ticket < desk.tickets := by
  rw [← Multiset.mem_range, ← balanced.custody, Multiset.mem_add]
  exact .inl (Multiset.mem_map_of_mem Submission.ticket held)

theorem mem_pending_of_line {submission : Submission} (inLine : submission ∈ desk.line) :
    submission ∈ desk.pending := by
  rw [pending, waiting, Multiset.mem_add, Multiset.mem_add]
  rcases List.mem_append.1 inLine with taken | queued
  · exact .inr taken
  · exact .inl (.inr queued)

theorem mem_held_of_pending {submission : Submission} (isPending : submission ∈ desk.pending) :
    submission ∈ desk.held := by
  rw [held_eq]
  exact Multiset.mem_add.2 (.inl isPending)

end Desk

namespace Turn

variable {intake : Intake} {store after : Store} {task? : Option Task} {before desk : Desk}
  {notes : List Note}

/-- What a turn does to the line: nothing, or one batch joins it, or the worker runs a batch
that has just been handed in, or it runs the first in line. -/
inductive Moves (before desk : Desk) (notes : List Note) : Prop where
  | nothing (noRun : Note.runs notes = []) (noEntry : Note.entries notes = [])
      (sameLine : desk.line = before.line)
  | joins {submission : Submission} (noRun : Note.runs notes = [])
      (entry : Note.entries notes = [submission.ticket])
      (isLine : desk.line = before.line ++ [submission])
      (origin : submission.ticket = before.tickets ∧ desk.tickets = before.tickets + 1 ∨
        submission ∈ before.pending)
  | passes {response : Response} (run : Note.runs notes = [(before.tickets, response)])
      (noEntry : Note.entries notes = []) (sameLine : desk.line = before.line)
      (completed : (before.tickets, response) ∈ Note.completions notes)
  | leaves {submission : Submission} {response : Response}
      (run : Note.runs notes = [(submission.ticket, response)])
      (noEntry : Note.entries notes = []) (isLine : before.line = submission :: desk.line)
      (isFinished : desk.finished = some (submission, response))

theorem moves (turn : Turn intake store task? before after desk notes) :
    Moves before desk notes := by
  cases turn with
  | quiet silent => exact .nothing silent.runs silent.entries rfl
  | accepted => exact .joins rfl rfl (List.append_assoc _ _ _).symm (.inl ⟨rfl, rfl⟩)
  | entered waits =>
      refine .joins rfl rfl (List.append_assoc _ _ _).symm (.inr ?_)
      rw [Desk.pending, Desk.waiting, waits, Multiset.cons_add, Multiset.cons_add]
      exact Multiset.mem_cons_self _ _
  | ranInline => exact .passes rfl rfl rfl List.mem_cons_self
  | took isQueue idle =>
      refine .nothing rfl rfl ?_
      rw [Desk.line, Desk.line, isQueue, idle]
      rfl
  | ranNext isTaken completed ran =>
      refine .leaves rfl rfl ?_ rfl
      rw [Desk.line, Desk.line, isTaken]
      rfl
  | _ => exact .nothing rfl rfl rfl

/-- A turn leaves the store as it is, unless a batch is run that was handed in. -/
theorem store_eq_or_ran (turn : Turn intake store task? before after desk notes) :
    after = store ∧ Note.runs notes = [] ∨
      ∃ ticket batch response, intake.run store batch = (after, response) ∧
        Note.runs notes = [(ticket, response)] ∧
        ((ticket, batch) ∈ Note.submissions notes ∨
          ∃ submission ∈ before.held, submission.ticket = ticket ∧ submission.batch = batch) := by
  cases turn with
  | quiet silent => exact .inl ⟨rfl, silent.runs⟩
  | @ranInline origin request _ response asks admitted ran =>
      exact .inr ⟨before.tickets, request.operations, response, ran, rfl,
        .inl (List.mem_singleton_self _)⟩
  | @ranNext submission _ response isTaken completed ran =>
      exact .inr ⟨submission.ticket, submission.batch, response, ran, rfl,
        .inr ⟨submission, Desk.mem_held_of_taken isTaken, rfl, rfl⟩⟩
  | _ => exact .inl ⟨rfl, rfl⟩

theorem tickets_le (turn : Turn intake store task? before after desk notes) :
    before.tickets ≤ desk.tickets := by
  have lengths := congrArg List.length turn.draws
  rw [List.length_append, List.length_range, List.length_range] at lengths
  exact Nat.le.intro lengths.symm

/-- The batch that was run stays so until it is completed. -/
theorem finished_or_completed (turn : Turn intake store task? before after desk notes)
    {submission : Submission} {response : Response}
    (isFinished : before.finished = some (submission, response)) :
    desk.finished = some (submission, response) ∨
      (submission.ticket, response) ∈ Note.completions notes := by
  cases turn with
  | ranNext isTaken completed ran =>
      rw [completed] at isFinished
      cases isFinished
  | replied isFinishedToo isReply =>
      rw [isFinishedToo] at isFinished
      cases isFinished
      exact .inr (List.mem_singleton_self _)
  | calledBack isFinishedToo isCalls =>
      rw [isFinishedToo] at isFinished
      cases isFinished
      exact .inr (List.mem_singleton_self _)
  | _ => exact .inl isFinished

end Turn

namespace Desk

variable {desk next : Desk} {history notes : List Note}

/-- What joins the line joins its end, and what leaves it leaves its front. -/
theorem InLine.order_of_moves (inLine : desk.InLine history) (balanced : desk.Balanced history)
    (moves : Turn.Moves desk next notes) :
    served (history ++ notes) ++ next.line.map Submission.ticket =
      Note.entries (history ++ notes) := by
  cases moves with
  | nothing noRun noEntry sameLine =>
      rw [served_append_of_silent noRun noEntry, Note.entries_append, noEntry, sameLine,
        List.append_nil, inLine.order]
  | @joins submission noRun entry isLine origin =>
      have notRun : submission.ticket ∉ (Note.runs history).map Prod.fst := by
        rcases origin with ⟨fresh, -⟩ | isPending
        · rw [fresh]
          exact fun ran => Nat.lt_irrefl _ (inLine.lt_of_ran balanced ran)
        · exact inLine.notMem_runs_of_pending balanced isPending
      rw [served_append_of_entry notRun noRun entry, Note.entries_append, entry, isLine,
        List.map_append, ← List.append_assoc, inLine.order]
      rfl
  | passes run noEntry sameLine completed =>
      have notEntered : desk.tickets ∉ Note.entries history :=
        fun member => Nat.lt_irrefl _ (inLine.entered _ member)
      rw [served_append_of_inline notEntered run noEntry, Note.entries_append, noEntry,
        sameLine, List.append_nil, inLine.order]
  | @leaves submission response run noEntry isLine isFinished =>
      have line := inLine.order
      rw [isLine, List.map_cons] at line
      have entered : submission.ticket ∈ Note.entries history := by
        rw [← line]
        exact List.mem_append_right _ List.mem_cons_self
      rw [served_append_of_run entered run noEntry, Note.entries_append, noEntry,
        List.append_nil, List.append_assoc]
      exact line

/-- Every turn keeps the line. -/
theorem InLine.turn {intake : Intake} {store after : Store} {task? : Option Task}
    (inLine : desk.InLine history) (balanced : desk.Balanced history)
    (turn : Turn intake store task? desk after next notes) : next.InLine (history ++ notes) where
  ran := by
    intro ticket response noted
    rw [Note.completions_append, List.mem_append]
    rw [Note.runs_append, List.mem_append] at noted
    rcases noted with earlier | now
    · rcases inLine.ran earlier with completed | ⟨submission, isFinished, rfl⟩
      · exact .inl (.inl completed)
      · rcases turn.finished_or_completed isFinished with still | completed
        · exact .inr ⟨submission, still, rfl⟩
        · exact .inl (.inr completed)
    · cases turn.moves with
      | nothing noRun => rw [noRun] at now; cases now
      | joins noRun => rw [noRun] at now; cases now
      | passes run _ _ completed =>
          rw [run, List.mem_singleton] at now
          cases now
          exact .inl (.inr completed)
      | leaves run _ _ isFinished =>
          rw [run, List.mem_singleton] at now
          cases now
          exact .inr ⟨_, isFinished, rfl⟩
  entered := by
    intro ticket member
    rw [Note.entries_append, List.mem_append] at member
    rcases member with earlier | now
    · exact Nat.lt_of_lt_of_le (inLine.entered ticket earlier) turn.tickets_le
    · cases turn.moves with
      | nothing _ noEntry => rw [noEntry] at now; cases now
      | joins _ entry _ origin =>
          rw [entry, List.mem_singleton] at now
          subst now
          rcases origin with ⟨fresh, drawn⟩ | isPending
          · rw [fresh, drawn]
            exact Nat.lt_succ_self _
          · exact Nat.lt_of_lt_of_le (balanced.lt_of_held (mem_held_of_pending isPending))
              turn.tickets_le
      | passes _ noEntry => rw [noEntry] at now; cases now
      | leaves _ noEntry => rw [noEntry] at now; cases now
  order := inLine.order_of_moves balanced turn.moves

end Desk

end BatchTree
