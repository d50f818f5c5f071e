import BatchTree.Session.Call

/-!
# Completions

With a batch goes what is to be done with its response.  A completion holds this as a
callback, which is taken out to be called, so that it is not called again.  A completion that
is let go of with its callback calls it after all: no batch gets lost without a response.
-/

namespace BatchTree

/-- What is to be done with the response to a batch. -/
inductive Callback where
  /-- Hand it to the caller who waits for it. -/
  | reply
  /-- Report it under a label and make the calls. -/
  | calls (label : String) (script : List Call)

/-- A completion of a batch of `size` operations.  The callback is gone once it was called. -/
structure Completion where
  callback : Option Callback
  size : Nat

namespace Completion

/-- A completion that has not been used. -/
def new (size : Nat) (callback : Callback) : Completion where
  callback := some callback
  size := size

/-- Take the callback out, if it is there. -/
def take (completion : Completion) : Option Callback × Completion :=
  (completion.callback, { completion with callback := none })

/-- Let go of a completion.  Yields the calls of callbacks that come of it: one whose batch got
lost is told that the batch is unavailable. -/
def drop (completion : Completion) : List (Callback × Response) :=
  match completion.take.1 with
  | some callback => [(callback, .rejected completion.size .unavailable)]
  | none => []

/-- Call the callback with a response, and let go of what is left. -/
def complete (completion : Completion) (response : Response) : List (Callback × Response) :=
  match completion.take with
  | (some callback, rest) => (callback, response) :: rest.drop
  | (none, rest) => rest.drop

/-- A callback that is there is called once.  It is gone from what is let go of afterwards, and one
that is gone is not called again. -/
theorem complete_eq (completion : Completion) (response : Response) :
    completion.complete response =
      (completion.callback.map fun callback => (callback, response)).toList := by
  obtain ⟨callback, size⟩ := completion
  cases callback with
  | none => rfl
  | some callback => rfl

theorem drop_eq (completion : Completion) :
    completion.drop =
      (completion.callback.map fun callback =>
        (callback, .rejected completion.size .unavailable)).toList := by
  obtain ⟨callback, size⟩ := completion
  cases callback with
  | none => rfl
  | some callback => rfl

end Completion

/-- A batch on its way to the worker.  Its completion has not been used. -/
structure Submission where
  ticket : Nat
  batch : Batch
  completion : Completion
  unused : completion.callback.isSome
  size_eq : completion.size = batch.length

namespace Submission

/-- A batch as it is handed in. -/
def of (ticket : Nat) (batch : Batch) (callback : Callback) : Submission where
  ticket := ticket
  batch := batch
  completion := .new batch.length callback
  unused := rfl
  size_eq := rfl

/-- The callback that waits for the response. -/
def callback (submission : Submission) : Callback :=
  submission.completion.callback.get submission.unused

@[simp] theorem callback_of (ticket : Nat) (batch : Batch) (callback : Callback) :
    (of ticket batch callback).callback = callback := rfl

@[simp] theorem ticket_of (ticket : Nat) (batch : Batch) (callback : Callback) :
    (of ticket batch callback).ticket = ticket := rfl

@[simp] theorem batch_of (ticket : Nat) (batch : Batch) (callback : Callback) :
    (of ticket batch callback).batch = batch := rfl

theorem callback_completion (submission : Submission) :
    submission.completion.callback = some submission.callback :=
  (Option.some_get submission.unused).symm

/-- A batch that is completed calls its callback, and only once. -/
@[simp] theorem complete_completion (submission : Submission) (response : Response) :
    submission.completion.complete response = [(submission.callback, response)] := by
  rw [Completion.complete_eq, callback_completion]
  rfl

/-- So does a batch that gets lost. -/
@[simp] theorem drop_completion (submission : Submission) :
    submission.completion.drop =
      [(submission.callback, .rejected submission.batch.length .unavailable)] := by
  rw [Completion.drop_eq, callback_completion, submission.size_eq]
  rfl

end Submission

end BatchTree
