import BatchTree.Proofs.Installation
import BatchTree.Proofs.Validation
import BatchTree.Store

/-!
# All or nothing

A batch ends in one of four ways, and only one of them touches the tree.  What a
batch leaves behind is therefore either the state before it, watchers included, or
the tree that its last operation saw; this needs no assumption on the tree.
-/

namespace BatchTree

namespace Response

@[simp] theorem isCommitted_committed (replies : List Reply) (zxid : Option Zxid) :
    (committed replies zxid).isCommitted = true := rfl

@[simp] theorem isCommitted_unavailable (count : Nat) :
    (rejected count .unavailable).isCommitted = false := rfl

theorem isCommitted_rejected (count : Nat) {status : Status} (refusal : status ≠ .ok) :
    (rejected count status).isCommitted = false := by
  rw [isCommitted, ← Bool.not_eq_true, Status.isOk_iff]
  exact refusal

theorem isCommitted_aborted (count index : Nat) {status : Status}
    (refusal : status ∈ Overlay.refusals) : (aborted count index status).isCommitted = false := by
  rw [isCommitted, aborted, ← Bool.not_eq_true, Status.isOk_iff]
  rintro rfl
  exact absurd refusal (by decide)

end Response

namespace Tree

/-- The ways in which a batch can end on a tree. -/
inductive Ends (limits : Limits) (tree : Tree) : Batch → Effect → Prop where
  | empty : Ends limits tree [] (tree.unaffected (.committed [] none))
  | aborted {batch : Batch} {index : Nat} {status : Status} (nonempty : batch ≠ [])
      (failure : (Overlay.ofTree tree).validateAll limits 0 batch = .error (index, status)) :
      Ends limits tree batch (tree.unaffected (.aborted batch.length index status))
  | refused {batch : Batch} {overlay : Overlay} {replies : List Reply} {fault : Fault}
      (nonempty : batch ≠ [])
      (success : (Overlay.ofTree tree).validateAll limits 0 batch = .ok (overlay, replies))
      (refusal : tree.install overlay.toChangeSet = .error fault) :
      Ends limits tree batch (tree.unaffected (.rejected batch.length .unavailable))
  | committed {batch : Batch} {overlay : Overlay} {replies : List Reply}
      (nonempty : batch ≠ [])
      (success : (Overlay.ofTree tree).validateAll limits 0 batch = .ok (overlay, replies))
      (installed : tree.install overlay.toChangeSet = .ok (tree.apply overlay.toChangeSet)) :
      Ends limits tree batch
        { tree := tree.apply overlay.toChangeSet
          response := .committed replies (some overlay.toChangeSet.zxid)
          events := overlay.toChangeSet.events }

theorem install_eq_ok {tree installed : Tree} {set : ChangeSet}
    (success : tree.install set = .ok installed) : installed = tree.apply set := by
  unfold install at success
  split at success
  · cases success
  · rw [← Except.ok.inj success]

/-- Every batch ends in one of these ways. -/
theorem ends_execute (limits : Limits) (tree : Tree) (batch : Batch) :
    tree.Ends limits batch (tree.execute limits batch) := by
  unfold execute
  split
  · rename_i isEmpty
    rw [List.isEmpty_iff] at isEmpty
    subst isEmpty
    exact .empty
  · rename_i notEmpty
    rw [List.isEmpty_iff] at notEmpty
    split
    · rename_i failure
      exact .aborted notEmpty failure
    · rename_i overlay replies success
      dsimp only
      split
      · rename_i refusal
        exact .refused notEmpty success refusal
      · rename_i installed isInstalled
        have same := install_eq_ok isInstalled
        subst same
        exact .committed notEmpty success isInstalled

theorem execute_of_error {limits : Limits} {tree : Tree} {batch : Batch} {index : Nat}
    {status : Status} (nonempty : batch ≠ [])
    (failure : (Overlay.ofTree tree).validateAll limits 0 batch = .error (index, status)) :
    tree.execute limits batch = tree.unaffected (.aborted batch.length index status) := by
  rw [execute, if_neg (mt List.isEmpty_iff.1 nonempty), failure]

theorem execute_of_ok {limits : Limits} {tree : Tree} {batch : Batch} {overlay : Overlay}
    {replies : List Reply} (nonempty : batch ≠ [])
    (success : (Overlay.ofTree tree).validateAll limits 0 batch = .ok (overlay, replies))
    (installed : tree.install overlay.toChangeSet = .ok (tree.apply overlay.toChangeSet)) :
    tree.execute limits batch =
      { tree := tree.apply overlay.toChangeSet
        response := .committed replies (some overlay.toChangeSet.zxid)
        events := overlay.toChangeSet.events } := by
  rw [execute, if_neg (mt List.isEmpty_iff.1 nonempty), success]
  dsimp only
  rw [installed]

/-- A batch is answered operation by operation, whether it is committed or not. -/
theorem size_response_execute (limits : Limits) (tree : Tree) (batch : Batch) :
    (tree.execute limits batch).response.size = batch.length := by
  generalize effect : tree.execute limits batch = ended
  have ends : tree.Ends limits batch ended := effect ▸ ends_execute ..
  cases ends with
  | empty => rfl
  | aborted => exact Response.size_aborted ..
  | refused => exact Response.size_rejected ..
  | committed _ success _ =>
      exact (Overlay.acceptsAll_of_validateAll success).length_replies

/-- The tree has taken up a batch as a whole: it is one number further, and every path
leads to what the last operation of the batch saw there. -/
structure TakesUp (limits : Limits) (before : Tree) (batch : Batch) (after : Tree) : Prop where
  zxid_eq : after.zxid = before.zxid + 1
  reads_overlay : ∃ overlay replies,
    (Overlay.ofTree before).validateAll limits 0 batch = .ok (overlay, replies) ∧
      ∀ path, after.get? path = overlay.get? path

/-- What is installed is the overlay that the batch has built. -/
theorem takesUp_apply {limits : Limits} {tree : Tree} {batch : Batch} {overlay : Overlay}
    {replies : List Reply}
    (success : (Overlay.ofTree tree).validateAll limits 0 batch = .ok (overlay, replies)) :
    tree.TakesUp limits batch (tree.apply overlay.toChangeSet) := by
  have base : overlay.base = tree := (Overlay.acceptsAll_of_validateAll success).base_eq
  constructor
  · change overlay.base.zxid + 1 = tree.zxid + 1
    rw [base]
  · refine ⟨overlay, replies, success, ?_⟩
    intro path
    rw [← Overlay.get?_apply_toChangeSet overlay, base]

section Series

variable {limits : Limits} {tree : Tree} {batch : Batch}

/-- Execute batches one after the other, each under its own limits. -/
def executeSeries (tree : Tree) : List (Limits × Batch) → Tree × List Response
  | [] => (tree, [])
  | (limits, batch) :: rest =>
      let effect := tree.execute limits batch
      let others := effect.tree.executeSeries rest
      (others.1, effect.response :: others.2)

theorem executeSeries_concat (series : List (Limits × Batch)) :
    tree.executeSeries (series ++ [(limits, batch)]) =
      let first := tree.executeSeries series
      let effect := first.1.execute limits batch
      (effect.tree, first.2 ++ [effect.response]) := by
  induction series generalizing tree with
  | nil => rfl
  | cons head rest ih =>
      rw [List.cons_append, executeSeries, ih]
      rfl

/-- Execute batches one after the other. -/
def executeAll (limits : Limits) (tree : Tree) : List Batch → Tree × List Response
  | [] => (tree, [])
  | batch :: rest =>
      let effect := tree.execute limits batch
      let others := effect.tree.executeAll limits rest
      (others.1, effect.response :: others.2)

theorem executeAll_eq_executeSeries (batches : List Batch) :
    tree.executeAll limits batches =
      tree.executeSeries (batches.map fun batch => (limits, batch)) := by
  induction batches generalizing tree with
  | nil => rfl
  | cons head rest ih =>
      rw [executeAll, ih]
      rfl

theorem executeAll_concat (batches : List Batch) (batch : Batch) :
    tree.executeAll limits (batches ++ [batch]) =
      let first := tree.executeAll limits batches
      let effect := first.1.execute limits batch
      (effect.tree, first.2 ++ [effect.response]) := by
  rw [executeAll_eq_executeSeries, executeAll_eq_executeSeries, List.map_append]
  exact executeSeries_concat _

/-- A batch that is not committed leaves no trace. -/
theorem tree_of_not_committed
    (notCommitted : (tree.execute limits batch).response.isCommitted = false) :
    (tree.execute limits batch).tree = tree := by
  generalize effect : tree.execute limits batch = ended at notCommitted
  have ends : tree.Ends limits batch ended := effect ▸ ends_execute ..
  cases ends with
  | empty => rfl
  | aborted => rfl
  | refused => rfl
  | committed => cases notCommitted

/-- A committed batch takes the next number, unless it is empty. -/
theorem number_of_committed
    (committed : (tree.execute limits batch).response.isCommitted = true) :
    (tree.execute limits batch).tree.zxid = tree.zxid + (if batch = [] then 0 else 1) ∧
      (tree.execute limits batch).response.zxid =
        if batch = [] then none else some (tree.zxid + 1) := by
  generalize effect : tree.execute limits batch = ended at committed
  have ends : tree.Ends limits batch ended := effect ▸ ends_execute ..
  cases ends with
  | empty => exact ⟨(Int.add_zero _).symm, rfl⟩
  | @aborted _ index status nonempty failure =>
      have notCommitted := Response.isCommitted_aborted batch.length index
        (Overlay.validateAll_refusal failure)
      rw [unaffected, notCommitted] at committed
      cases committed
  | refused => cases committed
  | @committed _ overlay replies nonempty success installed =>
      have base : overlay.base = tree := (Overlay.acceptsAll_of_validateAll success).base_eq
      rw [if_neg nonempty, if_neg nonempty, ← base]
      exact ⟨rfl, rfl⟩

end Series

end Tree

namespace Store

/-- The tree does not depend on who watches. -/
theorem tree_execute (limits : Limits) (store : Store) (batch : Batch) :
    (store.execute limits batch).1.tree = (store.tree.execute limits batch).tree := by
  rw [execute]
  split <;> rfl

theorem watchers_execute (limits : Limits) (store : Store) (batch : Batch) :
    (store.execute limits batch).1.watchers =
      (store.watchers.fire (store.tree.execute limits batch).events).1 := by
  rw [execute]
  generalize store.watchers.fire (store.tree.execute limits batch).events = fired
  obtain ⟨watchers, complete⟩ := fired
  cases complete <;> rfl

/-- The answer is that of the tree. -/
theorem response_of_execute {limits : Limits} {store after : Store} {batch : Batch}
    {response : Response} (executed : store.execute limits batch = (after, .answered response)) :
    (store.tree.execute limits batch).response = response := by
  rw [execute] at executed
  split at executed
  · cases executed
    rfl
  · cases executed

/-- A batch without effect on the tree has none on the watchers. -/
theorem execute_unaffected {limits : Limits} {store : Store} {batch : Batch} {response : Response}
    (unaffected : store.tree.execute limits batch = store.tree.unaffected response) :
    store.execute limits batch = (store, .answered response) := by
  rw [execute, unaffected]
  rfl

/-- A batch takes effect as a whole or leaves no trace.  If a sink breaks down there is
no response, but by then the batch has taken effect. -/
theorem execute_all_or_nothing (limits : Limits) (store : Store) (batch : Batch) :
    match store.execute limits batch with
    | (after, .answered response) =>
        if batch = [] then
          after = store ∧ response = .committed [] none
        else if response.isCommitted then
          store.tree.TakesUp limits batch after.tree ∧ response.zxid = some after.tree.zxid
        else
          after = store
    | (after, .interrupted) => store.tree.TakesUp limits batch after.tree := by
  generalize effect : store.tree.execute limits batch = ended
  have ends : store.tree.Ends limits batch ended := effect ▸ Tree.ends_execute ..
  cases ends with
  | empty => simp [execute_unaffected effect]
  | @aborted _ index _ nonempty failure =>
      have notCommitted := Response.isCommitted_aborted batch.length index
        (Overlay.validateAll_refusal failure)
      rw [execute_unaffected effect]
      simp [nonempty, notCommitted]
  | refused nonempty success refusal =>
      rw [execute_unaffected effect]
      simp [nonempty]
  | committed nonempty success installed =>
      have takesUp := Tree.takesUp_apply success
      rw [execute, effect]
      dsimp only
      split
      · rename_i isExecuted
        split at isExecuted
        · cases isExecuted
          rw [if_neg nonempty, if_pos (Response.isCommitted_committed _ _)]
          exact ⟨takesUp, rfl⟩
        · cases isExecuted
      · rename_i isExecuted
        split at isExecuted
        · cases isExecuted
        · cases isExecuted
          exact takesUp

end Store

end BatchTree
