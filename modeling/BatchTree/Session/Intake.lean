import BatchTree.Session.Completion
import BatchTree.Store

/-!
# Intake of batches

What the callers of a session share with its worker: the gate, which decides
whether batches are taken at all, and the queue, in which they wait for the
worker.  Every submission draws a ticket, by which its completion is known.
-/

namespace BatchTree

/-- The gate and the queue of a session. -/
structure Intake where
  config : Config
  /-- May batches be executed? -/
  authoritative : Bool := true
  /-- Has the session been shut down? -/
  closed : Bool := false
  /-- The batches that wait for the worker, in order of arrival. -/
  queue : List Submission := []
  /-- The responses that have not been picked up, by ticket. -/
  replies : List (Nat × Response) := []
  /-- Number of tickets drawn, which is the next ticket. -/
  tickets : Nat := 0

namespace Intake

/-- Why a batch is turned away before it is tried: for its size, or for want of
authority. -/
def precheck? (intake : Intake) (batch : Batch) : Option Status :=
  if intake.config.maxBatchSize < batch.length then
    some .badArguments
  else if intake.authoritative then
    none
  else
    some .unavailable

/-- Why a batch from outside is turned away.  A session that was shut down takes
no batch, but the size of a batch is found fault with first. -/
def refusal? (intake : Intake) (batch : Batch) : Option Status :=
  match intake.precheck? batch with
  | some status => some status
  | none => if intake.closed then some .unavailable else none

/-- Why a batch that the worker itself submits is turned away.  Here the session
being shut down is found first. -/
def inlineRefusal? (intake : Intake) (batch : Batch) : Option Status :=
  if intake.closed then some .unavailable else intake.precheck? batch

def isFull (intake : Intake) : Bool :=
  intake.config.queueDepth ≤ intake.queue.length

/-- Put a submission at the end of the queue. -/
def enqueue (intake : Intake) (submission : Submission) : Intake :=
  { intake with queue := intake.queue ++ [submission] }

/-- Put a submission at the end of the queue if there is room for it, and else give it back. -/
def offer (intake : Intake) (submission : Submission) : Except Submission Intake :=
  if intake.isFull then .error submission else .ok (intake.enqueue submission)

theorem offer_of_room {intake : Intake} (room : intake.isFull = false) (submission : Submission) :
    intake.offer submission = .ok (intake.enqueue submission) := by
  rw [offer, room]
  rfl

theorem offer_of_full {intake : Intake} (full : intake.isFull = true) (submission : Submission) :
    intake.offer submission = .error submission := by
  rw [offer, if_pos full]

/-- Draw a ticket. -/
def issue (intake : Intake) : Intake :=
  { intake with tickets := intake.tickets + 1 }

/-- Leave a response for the caller who waits under a ticket. -/
def leave (intake : Intake) (ticket : Nat) (response : Response) : Intake :=
  { intake with replies := intake.replies ++ [(ticket, response)] }

/-- Take a response away. -/
def pickUp (intake : Intake) (ticket : Nat) : Intake :=
  { intake with replies := intake.replies.filter fun reply => reply.1 ≠ ticket }

/-- Run a batch whose turn has come.  Without authority nothing is run, and a
batch whose execution was interrupted is reported as unavailable. -/
def run (intake : Intake) (store : Store) (batch : Batch) : Store × Response :=
  if intake.authoritative then
    match store.execute intake.config.limits batch with
    | (store, .answered response) => (store, response)
    | (store, .interrupted) => (store, .rejected batch.length .unavailable)
  else
    (store, .rejected batch.length .unavailable)

/-- A summary for logs. -/
def description (intake : Intake) : String :=
  let config := Text.record "ServerConfig"
    [("max_data_len", toString intake.config.maxDataLength),
      ("max_batch_ops", toString intake.config.maxBatchSize),
      ("queue_depth", toString intake.config.queueDepth),
      ("worker_name", Text.quoted intake.config.workerName)]
  Text.record "Session"
    [("config", config), ("authoritative", toString intake.authoritative),
      ("shut_down", toString intake.closed)]

end Intake

end BatchTree
