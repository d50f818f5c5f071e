import BatchTree.Batch.Execute
import BatchTree.Watch.Mailbox

/-!
# The store

The committed tree together with those who watch it.  A batch that takes effect is
told of before its response is given.
-/

namespace BatchTree

/-- The committed tree and those who watch it. -/
structure Store where
  tree : Tree := .fresh
  watchers : Broadcast Mailbox := {}
  deriving DecidableEq

/-- How the execution of a batch ends. -/
inductive Execution where
  | answered (response : Response)
  /-- A sink broke down when the batch had been installed, so nobody is left to
  answer. -/
  | interrupted
  deriving DecidableEq

/-- Execute a batch and tell the watchers. -/
def Store.execute (limits : Limits) (store : Store) (batch : Batch) : Store × Execution :=
  let effect := store.tree.execute limits batch
  match store.watchers.fire effect.events with
  | (watchers, true) => (⟨effect.tree, watchers⟩, .answered effect.response)
  | (watchers, false) => (⟨effect.tree, watchers⟩, .interrupted)

end BatchTree
