import BatchTree.Proofs.Turns
import Mathlib.Algebra.Order.Group.Multiset
import Mathlib.Data.Multiset.Range
import Mathlib.Tactic.Abel

/-!
# Custody

From the moment in which it is handed in to its completion a batch is in the custody of the
session: it waits, or the worker has it in hand.  What is handed in is either still there or has
been completed, and nothing is there or completed twice; this is one equation between multisets
of tickets, which every turn keeps.  Another such equation says that whoever asks for the response
to a batch waits for it or has received it.
-/

namespace BatchTree

namespace Note

/-- The batch that is handed in. -/
def submission? : Note → Option (Nat × Batch)
  | submitted ticket batch => some (ticket, batch)
  | _ => none

/-- The response with which a batch is completed. -/
def completion? : Note → Option (Nat × Response)
  | completed ticket _ _ response => some (ticket, response)
  | _ => none

/-- The response to which a batch is run. -/
def run? : Note → Option (Nat × Response)
  | ran ticket response => some (ticket, response)
  | _ => none

/-- The batch that is put into the queue. -/
def entry? : Note → Option Nat
  | queued ticket => some ticket
  | _ => none

/-- Who asks for the response to a batch. -/
def ask? : Note → Option (Nat × Origin)
  | asked ticket origin => some (ticket, origin)
  | _ => none

/-- The batch whose response is received by whoever has asked for it. -/
def receipt? : Note → Option Nat
  | received ticket => some ticket
  | _ => none

/-- The answer to a call. -/
def answer? : Note → Option (Origin × Answer)
  | answered origin answer => some (origin, answer)
  | _ => none

def submissions (notes : List Note) : List (Nat × Batch) :=
  notes.filterMap submission?

def completions (notes : List Note) : List (Nat × Response) :=
  notes.filterMap completion?

def runs (notes : List Note) : List (Nat × Response) :=
  notes.filterMap run?

def entries (notes : List Note) : List Nat :=
  notes.filterMap entry?

def asks (notes : List Note) : List (Nat × Origin) :=
  notes.filterMap ask?

def receipts (notes : List Note) : List Nat :=
  notes.filterMap receipt?

def answers (notes : List Note) : List (Origin × Answer) :=
  notes.filterMap answer?

section Append

variable (earlier later : List Note)

theorem submissions_append :
    submissions (earlier ++ later) = submissions earlier ++ submissions later :=
  List.filterMap_append

theorem completions_append :
    completions (earlier ++ later) = completions earlier ++ completions later :=
  List.filterMap_append

theorem runs_append : runs (earlier ++ later) = runs earlier ++ runs later :=
  List.filterMap_append

theorem entries_append : entries (earlier ++ later) = entries earlier ++ entries later :=
  List.filterMap_append

theorem asks_append : asks (earlier ++ later) = asks earlier ++ asks later :=
  List.filterMap_append

theorem receipts_append : receipts (earlier ++ later) = receipts earlier ++ receipts later :=
  List.filterMap_append

end Append

/-- Who does not listen to answers hears nothing in silence. -/
theorem Silent.filterMap_eq_nil {α : Type} {read : Note → Option α} {notes : List Note}
    (silent : Silent notes) (deaf : ∀ origin answer, read (.answered origin answer) = none) :
    notes.filterMap read = [] := by
  rw [List.filterMap_eq_nil_iff]
  intro note member
  obtain ⟨origin, answer, rfl, -⟩ := silent note member
  exact deaf origin answer

section Silent

variable {notes : List Note}

theorem Silent.submissions (silent : Silent notes) : Note.submissions notes = [] :=
  silent.filterMap_eq_nil fun _ _ => rfl

theorem Silent.completions (silent : Silent notes) : Note.completions notes = [] :=
  silent.filterMap_eq_nil fun _ _ => rfl

theorem Silent.runs (silent : Silent notes) : Note.runs notes = [] :=
  silent.filterMap_eq_nil fun _ _ => rfl

theorem Silent.entries (silent : Silent notes) : Note.entries notes = [] :=
  silent.filterMap_eq_nil fun _ _ => rfl

theorem Silent.asks (silent : Silent notes) : Note.asks notes = [] :=
  silent.filterMap_eq_nil fun _ _ => rfl

theorem Silent.receipts (silent : Silent notes) : Note.receipts notes = [] :=
  silent.filterMap_eq_nil fun _ _ => rfl

theorem Silent.plain (silent : Silent notes) {origin : Origin} {answer : Answer}
    (answered : (origin, answer) ∈ Note.answers notes) : answer.IsPlain := by
  obtain ⟨note, member, isAnswer⟩ := List.mem_filterMap.1 answered
  obtain ⟨_, _, rfl, plain⟩ := silent note member
  cases isAnswer
  exact plain

end Silent

end Note

/-- Is the response handed to a caller who waits for it? -/
def Callback.isReply : Callback → Bool
  | reply => true
  | calls _ _ => false

namespace Desk

variable (desk : Desk)

/-- The batches whose turn has not come: those in the queue, and those that wait for room
in it. -/
def waiting : Multiset Submission :=
  desk.door + desk.queue

/-- The batches that the worker has in hand: one that was taken and is to be run, and one that was
run and whose completion has not begun. -/
def running : Multiset Submission :=
  desk.taken.toList + (desk.finished.map Prod.fst).toList

/-- The batches in custody. -/
def held : Multiset Submission :=
  desk.waiting + desk.running

/-- The tickets of those in custody whose callers wait for the response. -/
def owed : Multiset Nat :=
  (desk.held.filter fun submission => submission.callback.isReply).map Submission.ticket

/-- The tickets under which somebody waits for a response. -/
def awaited : Multiset Nat :=
  desk.awaiting.map Waiter.ticket

/-- What is on the desk agrees with what has been noted.  What was handed in is in custody or
completed, and only once; everyone who waits does so for a batch in custody or for a response
that lies ready; and whoever has asked for a response waits for it or has received it, and only
once. -/
structure Balanced (notes : List Note) : Prop where
  tickets : (Note.submissions notes).map Prod.fst = List.range desk.tickets
  custody : desk.held.map Submission.ticket + ((Note.completions notes).map Prod.fst : List Nat) =
    Multiset.range desk.tickets
  replies : desk.replies.Sublist (Note.completions notes)
  awaited : desk.awaited = desk.owed + (desk.replies.map Prod.fst : List Nat)
  asked : ((Note.asks notes).map Prod.fst).Sublist ((Note.submissions notes).map Prod.fst)
  received : desk.awaited + (Note.receipts notes : List Nat) =
    ((Note.asks notes).map Prod.fst : List Nat)

section Held

variable {desk} {submission : Submission} {response : Response} {waiting : List Submission}
  {door : Multiset Submission}

theorem held_concat (tickets : Nat) :
    held { desk with tickets := tickets, queue := desk.queue ++ [submission] } =
      submission ::ₘ desk.held := by
  simp only [held, Desk.waiting, running, ← Multiset.coe_add, Multiset.coe_singleton,
    ← Multiset.singleton_add]
  abel

theorem held_cons (tickets : Nat) (awaiting : Multiset Waiter) :
    held { desk with
        tickets := tickets
        door := submission ::ₘ desk.door
        awaiting := awaiting } =
      submission ::ₘ desk.held := by
  simp only [held, Desk.waiting, running, Multiset.cons_add]

/-- A batch that goes from the door into the queue stays in custody. -/
theorem held_enter (waits : desk.door = submission ::ₘ door) :
    held { desk with door := door, queue := desk.queue ++ [submission] } = desk.held := by
  simp only [held, Desk.waiting, running, waits, ← Multiset.coe_add, Multiset.coe_singleton,
    ← Multiset.singleton_add]
  abel

/-- So does a batch that is taken from the queue. -/
theorem held_take (isQueue : desk.queue = submission :: waiting) (idle : desk.taken = none) :
    held { desk with queue := waiting, taken := some submission } = desk.held := by
  simp only [held, Desk.waiting, running, isQueue, idle, Option.toList_some, Option.toList_none,
    ← Multiset.cons_coe, ← Multiset.singleton_add, Multiset.coe_nil, add_zero]
  abel

/-- And one that is run. -/
theorem held_run (isTaken : desk.taken = some submission) (completed : desk.finished = none) :
    held { desk with taken := none, finished := some (submission, response) } = desk.held := by
  simp only [held, running, isTaken, completed, Option.map_some, Option.map_none,
    Option.toList_some, Option.toList_none, Multiset.coe_nil, add_zero, zero_add]
  rfl

/-- The batch that was run is one of those in custody. -/
theorem held_finished (isFinished : desk.finished = some (submission, response))
    (replies : List (Nat × Response)) :
    desk.held = submission ::ₘ held { desk with finished := none, replies := replies } := by
  simp only [held, Desk.waiting, running, isFinished, Option.map_some, Option.map_none,
    Option.toList_some, Option.toList_none, Multiset.coe_singleton, ← Multiset.singleton_add,
    Multiset.coe_nil]
  abel

theorem mem_held_of_finished (isFinished : desk.finished = some (submission, response)) :
    submission ∈ desk.held :=
  held_finished isFinished desk.replies ▸ Multiset.mem_cons_self _ _

theorem mem_held_of_taken (isTaken : desk.taken = some submission) : submission ∈ desk.held := by
  rw [held, running, isTaken]
  exact Multiset.mem_add.2 (.inr (Multiset.mem_add.2 (.inl (Multiset.mem_singleton_self _))))

theorem owed_of_reply {after : Desk} (takes : after.held = submission ::ₘ desk.held)
    (isReply : submission.callback = .reply) :
    after.owed = submission.ticket ::ₘ desk.owed := by
  have owes : submission.callback.isReply = true := by rw [isReply, Callback.isReply]
  simp only [owed, takes, Multiset.filter_cons, owes, if_true, Multiset.singleton_add,
    Multiset.map_cons]

theorem owed_of_calls {after : Desk} {label : String} {script : List Call}
    (takes : after.held = submission ::ₘ desk.held)
    (isCalls : submission.callback = .calls label script) : after.owed = desk.owed := by
  have owesNot : submission.callback.isReply = false := by rw [isCalls, Callback.isReply]
  simp only [owed, takes, Multiset.filter_cons, owesNot, Bool.false_eq_true, if_false, zero_add]

/-- A response that is left is one more that lies ready. -/
theorem coe_tickets_concat (replies : List (Nat × Response)) (ticket : Nat)
    (response : Response) :
    (((replies ++ [(ticket, response)]).map Prod.fst : List Nat) : Multiset Nat) =
      ticket ::ₘ ((replies.map Prod.fst : List Nat) : Multiset Nat) := by
  simp only [List.map_append, ← Multiset.coe_add, List.map_cons, List.map_nil,
    Multiset.coe_singleton, ← Multiset.singleton_add]
  abel

/-- Where each response lies under a ticket of its own, one that is picked up leaves the
others. -/
theorem coe_tickets_of_lookup {replies : List (Nat × Response)} {ticket : Nat}
    (distinct : (replies.map Prod.fst).Nodup) (ready : replies.lookup ticket = some response) :
    ((replies.map Prod.fst : List Nat) : Multiset Nat) =
      ticket ::ₘ (((replies.filter fun reply => reply.1 ≠ ticket).map Prod.fst : List Nat) :
        Multiset Nat) := by
  obtain ⟨first, rest, rfl, -⟩ := List.lookup_eq_some_iff.1 ready
  rw [List.map_append, List.map_cons, List.nodup_middle, List.nodup_cons] at distinct
  have others : ∀ reply ∈ first ++ rest, reply.1 ≠ ticket := by
    intro reply member same
    apply distinct.1
    rw [← List.map_append]
    exact List.mem_map.2 ⟨reply, member, same⟩
  have left : (first ++ (ticket, response) :: rest).filter (fun reply => reply.1 ≠ ticket) =
      first ++ rest := by
    rw [List.filter_append, List.filter_cons_of_neg (by simp), ← List.filter_append,
      List.filter_eq_self]
    intro reply member
    exact decide_eq_true (others reply member)
  rw [left, Multiset.cons_coe, Multiset.coe_eq_coe, List.map_append, List.map_cons,
    List.map_append]
  exact List.perm_middle

end Held

end Desk

namespace Turn

variable {intake : Intake} {store after : Store} {task? : Option Task} {before desk : Desk}
  {notes : List Note}

/-- A turn leaves what is in custody, and completes what it is handed at once; or it takes one
batch into custody; or it completes the batch that was run. -/
theorem keeps_or_takes_or_completes (turn : Turn intake store task? before after desk notes) :
    (desk.held = before.held ∧
        (Note.completions notes).map Prod.fst = (Note.submissions notes).map Prod.fst) ∨
      (∃ submission : Submission, desk.held = submission ::ₘ before.held ∧
        Note.submissions notes = [(submission.ticket, submission.batch)] ∧
        Note.completions notes = []) ∨
      ∃ submission response, before.finished = some (submission, response) ∧
        before.held = submission ::ₘ desk.held ∧ Note.submissions notes = [] ∧
        Note.completions notes = [(submission.ticket, response)] := by
  cases turn with
  | quiet silent => exact .inl ⟨rfl, by rw [silent.completions, silent.submissions]; rfl⟩
  | @accepted batch label script admitted =>
      refine .inr (.inl ⟨.of before.tickets batch (.calls label script), ?_, rfl, rfl⟩)
      exact Desk.held_concat _
  | @handedIn origin request asks admitted =>
      refine .inr (.inl ⟨.of before.tickets request.operations .reply, ?_, rfl, rfl⟩)
      exact Desk.held_cons _ _
  | entered waits => exact .inl ⟨Desk.held_enter waits, rfl⟩
  | took isQueue idle => exact .inl ⟨Desk.held_take isQueue idle, rfl⟩
  | ranNext isTaken completed ran => exact .inl ⟨Desk.held_run isTaken completed, rfl⟩
  | @replied submission response isFinished isReply =>
      exact .inr
        (.inr ⟨submission, response, isFinished, Desk.held_finished isFinished _, rfl, rfl⟩)
  | @calledBack submission response label script isFinished isCalls =>
      exact .inr
        (.inr ⟨submission, response, isFinished, Desk.held_finished isFinished _, rfl, rfl⟩)
  | _ => exact .inl ⟨rfl, rfl⟩

/-- What is in custody or completed after a turn was so before it, or has just been handed
in. -/
theorem balance (turn : Turn intake store task? before after desk notes) :
    desk.held.map Submission.ticket + ((Note.completions notes).map Prod.fst : List Nat) =
      before.held.map Submission.ticket + ((Note.submissions notes).map Prod.fst : List Nat) := by
  rcases turn.keeps_or_takes_or_completes with
    ⟨kept, same⟩ | ⟨submission, taken, isSubmitted, none⟩ |
      ⟨submission, response, -, given, none, isCompleted⟩
  · rw [kept, same]
  · rw [taken, isSubmitted, none]
    simp [add_comm]
  · rw [given, isCompleted, none]
    simp [add_comm]

/-- A batch that is handed in draws the next ticket. -/
theorem draws (turn : Turn intake store task? before after desk notes) :
    List.range desk.tickets =
      List.range before.tickets ++ (Note.submissions notes).map Prod.fst := by
  cases turn with
  | quiet silent => rw [silent.submissions, List.map_nil, List.append_nil]
  | received => exact (List.append_nil _).symm
  | entered => exact (List.append_nil _).symm
  | took => exact (List.append_nil _).symm
  | ranNext => exact (List.append_nil _).symm
  | replied => exact (List.append_nil _).symm
  | calledBack => exact (List.append_nil _).symm
  | _ => exact List.range_succ

/-- The batch that has been run after a turn had been run before it, or was in custody and has
just been run. -/
theorem finished_before_or_ran (turn : Turn intake store task? before after desk notes)
    {submission : Submission} {response : Response}
    (isFinished : desk.finished = some (submission, response)) :
    before.finished = some (submission, response) ∨
      submission ∈ before.held ∧ intake.run store submission.batch = (after, response) ∧
        .ran submission.ticket response ∈ notes := by
  cases turn with
  | ranNext isTaken completed ran =>
      cases isFinished
      exact .inr ⟨Desk.mem_held_of_taken isTaken, ran, List.mem_singleton_self _⟩
  | replied => cases isFinished
  | calledBack => cases isFinished
  | _ => exact .inl isFinished

/-- A batch that is completed had been run before, or it is turned away or run as it is
handed in. -/
theorem completed_cases (turn : Turn intake store task? before after desk notes) {ticket : Nat}
    {response : Response} (completed : (ticket, response) ∈ Note.completions notes) :
    (∃ submission, before.finished = some (submission, response) ∧ submission.ticket = ticket) ∨
      ∃ batch, (ticket, batch) ∈ Note.submissions notes ∧
        ((∃ status, intake.Refuses batch status ∧ response = .rejected batch.length status ∧
            Note.runs notes = []) ∨
          intake.run store batch = (after, response) ∧ .ran ticket response ∈ notes) := by
  cases turn with
  | quiet silent =>
      rw [silent.completions] at completed
      cases completed
  | @refused batch label status refusal =>
      cases List.mem_singleton.1 completed
      exact .inr ⟨batch, List.mem_singleton_self _, .inl ⟨status, refusal, rfl, rfl⟩⟩
  | @refusedOutside origin request status asks refusal =>
      cases List.mem_singleton.1 completed
      exact .inr ⟨request.operations, List.mem_singleton_self _, .inl ⟨status, refusal, rfl, rfl⟩⟩
  | @refusedInline origin request status asks refusal =>
      cases List.mem_singleton.1 completed
      exact .inr ⟨request.operations, List.mem_singleton_self _, .inl ⟨status, refusal, rfl, rfl⟩⟩
  | @ranInline origin request _ result asks admitted ran =>
      cases List.mem_singleton.1 completed
      exact .inr ⟨request.operations, List.mem_singleton_self _,
        .inr ⟨ran, List.mem_cons_of_mem _ (List.mem_cons_of_mem _ List.mem_cons_self)⟩⟩
  | @replied submission result isFinished isReply =>
      cases List.mem_singleton.1 completed
      exact .inl ⟨submission, isFinished, rfl⟩
  | @calledBack submission result label script isFinished isCalls =>
      cases List.mem_singleton.1 completed
      exact .inl ⟨submission, isFinished, rfl⟩
  | _ => cases completed

/-- A turn adds a response to those that lie ready only as it completes a batch. -/
theorem replies_sublist (turn : Turn intake store task? before after desk notes) :
    desk.replies.Sublist (before.replies ++ Note.completions notes) := by
  cases turn with
  | received waits ready => exact List.filter_sublist.trans (List.sublist_append_left _ _)
  | refusedOutside asks refusal => exact .refl _
  | replied isFinished isReply => exact .refl _
  | _ => exact List.sublist_append_left _ _

/-- Everyone who waits after a turn does so for a batch in custody or for a response that
lies ready, if it was so before. -/
theorem awaited_eq (turn : Turn intake store task? before after desk notes)
    (distinct : (before.replies.map Prod.fst).Nodup)
    (awaited : before.awaited = before.owed + (before.replies.map Prod.fst : List Nat)) :
    desk.awaited = desk.owed + (desk.replies.map Prod.fst : List Nat) := by
  cases turn with
  | received waits ready =>
      rw [Desk.awaited, waits, Multiset.map_cons, Desk.coe_tickets_of_lookup distinct ready,
        Multiset.add_cons, Multiset.cons_inj_right] at awaited
      exact awaited
  | refusedOutside asks refusal =>
      rw [Desk.awaited, Multiset.map_cons, Desk.coe_tickets_concat, Multiset.add_cons]
      exact congrArg _ awaited
  | accepted admitted =>
      rw [Desk.owed_of_calls (Desk.held_concat _) rfl]
      exact awaited
  | handedIn asks admitted =>
      rw [Desk.awaited, Multiset.map_cons, Desk.owed_of_reply (Desk.held_cons _ _) rfl,
        Multiset.cons_add]
      exact congrArg _ awaited
  | entered waits =>
      rw [Desk.owed, Desk.held_enter waits]
      exact awaited
  | took isQueue idle =>
      rw [Desk.owed, Desk.held_take isQueue idle]
      exact awaited
  | ranNext isTaken completed ran =>
      rw [Desk.owed, Desk.held_run isTaken completed]
      exact awaited
  | @replied submission response isFinished isReply =>
      -- The ticket passes from those owed to those that lie ready.
      have after :=
        Desk.held_finished isFinished (before.replies ++ [(submission.ticket, response)])
      rw [Desk.owed_of_reply after isReply, Multiset.cons_add] at awaited
      rw [Desk.coe_tickets_concat, Multiset.add_cons]
      exact awaited
  | calledBack isFinished isCalls =>
      rw [Desk.owed_of_calls (Desk.held_finished isFinished before.replies) isCalls] at awaited
      exact awaited
  | _ => exact awaited

/-- Whoever asks for a response does so for the batch that is handed in. -/
theorem asks_sublist (turn : Turn intake store task? before after desk notes) :
    ((Note.asks notes).map Prod.fst).Sublist ((Note.submissions notes).map Prod.fst) := by
  cases turn with
  | quiet silent =>
      rw [silent.asks]
      exact List.nil_sublist _
  | refused refusal => exact List.nil_sublist _
  | accepted admitted => exact List.nil_sublist _
  | _ => exact .refl _

/-- Whoever waits after a turn, or receives a response in it, has waited before it or asks in
it. -/
theorem balance_awaited (turn : Turn intake store task? before after desk notes) :
    desk.awaited + (Note.receipts notes : List Nat) =
      before.awaited + ((Note.asks notes).map Prod.fst : List Nat) := by
  cases turn with
  | quiet silent => rw [silent.receipts, silent.asks, List.map_nil]
  | received waits ready =>
      rw [Desk.awaited, Desk.awaited, waits, Multiset.map_cons]
      exact (add_comm _ _).trans (add_zero _).symm
  | refusedOutside asks refusal =>
      rw [Desk.awaited, Multiset.map_cons, ← Multiset.singleton_add]
      exact (add_zero _).trans (add_comm _ _)
  | handedIn asks admitted =>
      rw [Desk.awaited, Multiset.map_cons, ← Multiset.singleton_add]
      exact (add_zero _).trans (add_comm _ _)
  | _ => rfl

end Turn

namespace Desk

variable {desk : Desk} {history : List Note}

/-- No two batches have the same ticket. -/
theorem Balanced.nodup_submissions (balanced : desk.Balanced history) :
    ((Note.submissions history).map Prod.fst).Nodup := by
  rw [balanced.tickets]
  exact List.nodup_range

/-- No batch is in two places. -/
theorem Balanced.nodup_custody (balanced : desk.Balanced history) :
    (desk.held.map Submission.ticket +
      ((Note.completions history).map Prod.fst : List Nat)).Nodup := by
  rw [balanced.custody]
  exact Multiset.nodup_range _

/-- No batch is completed twice. -/
theorem Balanced.nodup_completions (balanced : desk.Balanced history) :
    ((Note.completions history).map Prod.fst).Nodup :=
  Multiset.coe_nodup.1 (Multiset.nodup_add.1 balanced.nodup_custody).2.1

/-- The response that lies ready under a ticket is the one with which the batch was completed. -/
theorem Balanced.completed_of_lookup (balanced : desk.Balanced history) {ticket : Nat}
    {response : Response} (ready : desk.replies.lookup ticket = some response) :
    (ticket, response) ∈ Note.completions history := by
  obtain ⟨first, rest, isReplies, -⟩ := List.lookup_eq_some_iff.1 ready
  apply balanced.replies.subset
  rw [isReplies]
  exact List.mem_append_right _ List.mem_cons_self

theorem Balanced.nodup_replies (balanced : desk.Balanced history) :
    (desk.replies.map Prod.fst).Nodup :=
  balanced.nodup_completions.sublist (balanced.replies.map Prod.fst)

/-- Nobody asks twice for one response. -/
theorem Balanced.nodup_asks (balanced : desk.Balanced history) :
    ((Note.asks history).map Prod.fst).Nodup :=
  balanced.nodup_submissions.sublist balanced.asked

/-- Whoever has asked for a response waits for it or has received it. -/
theorem Balanced.count_awaited_add (balanced : desk.Balanced history) {ticket : Nat}
    (asked : ticket ∈ (Note.asks history).map Prod.fst) :
    desk.awaited.count ticket + (Note.receipts history).count ticket = 1 := by
  have counted := congrArg (Multiset.count ticket) balanced.received
  rw [Multiset.count_add, Multiset.coe_count, Multiset.coe_count,
    List.count_eq_one_of_mem balanced.nodup_asks asked] at counted
  exact counted

/-- Every turn keeps the balance. -/
theorem Balanced.turn {intake : Intake} {store after : Store} {task? : Option Task} {next : Desk}
    {notes : List Note} (balanced : desk.Balanced history)
    (turn : Turn intake store task? desk after next notes) :
    next.Balanced (history ++ notes) where
  tickets := by
    rw [turn.draws, ← balanced.tickets, Note.submissions_append, List.map_append]
  custody := by
    calc next.held.map Submission.ticket +
          ((Note.completions (history ++ notes)).map Prod.fst : List Nat)
      _ = next.held.map Submission.ticket + ((Note.completions notes).map Prod.fst : List Nat) +
            ((Note.completions history).map Prod.fst : List Nat) := by
          rw [Note.completions_append, List.map_append, ← Multiset.coe_add]
          abel
      _ = desk.held.map Submission.ticket + ((Note.completions history).map Prod.fst : List Nat) +
            ((Note.submissions notes).map Prod.fst : List Nat) := by
          rw [turn.balance]
          abel
      _ = Multiset.range next.tickets := by
          rw [balanced.custody, Multiset.range, Multiset.range, turn.draws, ← Multiset.coe_add]
  replies := by
    rw [Note.completions_append]
    exact turn.replies_sublist.trans (balanced.replies.append_right _)
  awaited := turn.awaited_eq balanced.nodup_replies balanced.awaited
  asked := by
    rw [Note.asks_append, Note.submissions_append, List.map_append, List.map_append]
    exact balanced.asked.append turn.asks_sublist
  received := by
    calc next.awaited + (Note.receipts (history ++ notes) : List Nat)
      _ = next.awaited + (Note.receipts notes : List Nat) + (Note.receipts history : List Nat) := by
          rw [Note.receipts_append, ← Multiset.coe_add]
          abel
      _ = desk.awaited + (Note.receipts history : List Nat) +
            ((Note.asks notes).map Prod.fst : List Nat) := by
          rw [turn.balance_awaited]
          abel
      _ = ((Note.asks (history ++ notes)).map Prod.fst : List Nat) := by
          rw [balanced.received, Note.asks_append, List.map_append, Multiset.coe_add]

end Desk

end BatchTree
