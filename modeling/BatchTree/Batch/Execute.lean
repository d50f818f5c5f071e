import BatchTree.Batch.Validate
import BatchTree.Tree.Install
import BatchTree.Watch.Event

/-!
# Executing batches

A batch is validated operation by operation against an overlay.  If all pass, the
staged changes are installed and an event tells of each of them; otherwise the
tree is left as it was.
-/

namespace BatchTree

/-- Judge the operations of a batch in order, the first of which has the given
index.  Yields the overlay with all changes staged and the replies, or the index
and the code of the first operation that fails. -/
def Overlay.validateAll (limits : Limits) (index : Nat) (overlay : Overlay) :
    Batch → Except (Nat × Status) (Overlay × List Reply)
  | [] => .ok (overlay, [])
  | operation :: rest =>
      match overlay.validate limits operation with
      | .error status => .error (index, status)
      | .ok (staged, reply) =>
          match staged.validateAll limits (index + 1) rest with
          | .error failure => .error failure
          | .ok (final, replies) => .ok (final, reply :: replies)

/-- The events that tell of the changes of a set, in order. -/
def ChangeSet.events (set : ChangeSet) : List Event :=
  set.log.map (·.event set.zxid)

/-- What a batch comes to. -/
structure Effect where
  tree : Tree
  response : Response
  events : List Event
  deriving DecidableEq

namespace Tree

/-- A batch that does not take effect. -/
def unaffected (tree : Tree) (response : Response) : Effect where
  tree := tree
  response := response
  events := []

/-- Execute a batch.  An empty batch commits without a number; a batch that the
tree will not install is rejected as unavailable. -/
def execute (limits : Limits) (tree : Tree) (batch : Batch) : Effect :=
  if batch.isEmpty then
    tree.unaffected (.committed [] none)
  else
    match (Overlay.ofTree tree).validateAll limits 0 batch with
    | .error (index, status) => tree.unaffected (.aborted batch.length index status)
    | .ok (overlay, replies) =>
        let set := overlay.toChangeSet
        match tree.install set with
        | .error _ => tree.unaffected (.rejected batch.length .unavailable)
        | .ok installed =>
            { tree := installed
              response := .committed replies (some set.zxid)
              events := set.events }

end Tree

end BatchTree
