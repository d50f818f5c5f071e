import BatchTree.Batch.Phase
import BatchTree.Stat
import BatchTree.Status

/-!
# Responses

A batch is answered by its overall code and one reply for each of its operations.
A response is of one of three shapes: committed, aborted because of one
operation, or rejected before any operation was tried.
-/

namespace BatchTree

/-- The answer to one operation. -/
inductive Reply where
  /-- Created at `path`, which includes any counter. -/
  | created (path : String)
  | deleted
  /-- The data was set; `stat` is the record of the node afterwards. -/
  | dataSet (stat : Stat)
  | checked
  /-- The operation had no effect. -/
  | failed (status : Status)
  deriving DecidableEq, Repr

namespace Reply

def status : Reply → Status
  | failed status => status
  | _ => .ok

def isFailed : Reply → Bool
  | failed _ => true
  | _ => false

def createdPath? : Reply → Option String
  | created path => some path
  | _ => none

def stat? : Reply → Option Stat
  | dataSet stat => some stat
  | _ => none

end Reply

/-- The answer to a batch. -/
structure Response where
  outcome : Status
  /-- The operation that the batch was aborted for. -/
  failedIndex : Option Nat
  /-- The number under which the batch was installed. -/
  zxid : Option Zxid
  replies : List Reply
  deriving DecidableEq, Repr

namespace Response

/-- Every operation took effect. -/
def committed (replies : List Reply) (zxid : Option Zxid) : Response where
  outcome := .ok
  failedIndex := none
  zxid := zxid
  replies := replies

/-- A batch of `count` operations that was refused as a whole. -/
def rejected (count : Nat) (status : Status) : Response where
  outcome := status
  failedIndex := none
  zxid := none
  replies := List.replicate count (.failed status)

/-- A batch of `count` operations that was rolled back because operation `index`
failed.  The others, before or after it, are all reported as aborted. -/
def aborted (count index : Nat) (status : Status) : Response where
  outcome := status
  failedIndex := some index
  zxid := none
  replies := (List.range count).map fun position =>
    .failed (if position = index then status else .transactionAborted)

def isCommitted (response : Response) : Bool :=
  response.outcome.isOk

/-- The phase that the batch ended in. -/
def phase (response : Response) : Phase :=
  if response.isCommitted then .committed else .aborted

def size (response : Response) : Nat :=
  response.replies.length

def isEmpty (response : Response) : Bool :=
  response.replies.isEmpty

@[simp] theorem size_committed (replies : List Reply) (zxid : Option Zxid) :
    (committed replies zxid).size = replies.length := rfl

@[simp] theorem size_rejected (count : Nat) (status : Status) :
    (rejected count status).size = count := by
  simp [rejected, size]

@[simp] theorem size_aborted (count index : Nat) (status : Status) :
    (aborted count index status).size = count := by
  simp [aborted, size]

end Response

/-- A failed request, for callers who want a result or an error. -/
inductive Failure where
  /-- A batch did not commit. -/
  | batch (status : Status) (index : Option Nat) (replies : List Reply)
  /-- A single node could not be read or changed. -/
  | node (status : Status) (path : String)
  deriving DecidableEq, Repr

namespace Failure

def status : Failure → Status
  | batch status _ _ => status
  | node status _ => status

/-- The operation at fault, if one is. -/
def index? : Failure → Option Nat
  | batch _ index _ => index
  | node .. => none

def replies : Failure → List Reply
  | batch _ _ replies => replies
  | node .. => []

def isRetryable (failure : Failure) : Bool :=
  failure.status.isRetryable

/-- The wording of a failure. -/
def message : Failure → String
  | batch status none _ => s!"batch failed with {status.message}"
  | batch status (some index) _ =>
      s!"batch failed with {status.message} at operation {index}"
  | node status path => s!"{status.message} for {path}"

end Failure

/-- The replies of a committed batch, or a failure that carries all there is to
know of another. -/
def Response.toExcept (response : Response) : Except Failure (List Reply) :=
  if response.isCommitted then
    .ok response.replies
  else
    .error (.batch response.outcome response.failedIndex response.replies)

end BatchTree
