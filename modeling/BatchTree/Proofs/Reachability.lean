import BatchTree.Proofs.Execution
import Mathlib.Data.Set.Basic

/-!
# Reachable trees

A tree is reachable if batches lead to it from the fresh tree.  What every edit keeps
holds of each reachable tree (`ReachableUnder.preserves`); in particular each of them
is consistent.
-/

namespace BatchTree

namespace Tree

/-- The trees that batches lead to, each of them executed under permitted limits. -/
inductive ReachableUnder (permitted : Set Limits) : Tree → Prop where
  | fresh : ReachableUnder permitted fresh
  | execute {tree : Tree} {limits : Limits} (reachable : ReachableUnder permitted tree)
      (allowed : limits ∈ permitted) (batch : Batch) :
      ReachableUnder permitted (tree.execute limits batch).tree

/-- The trees that batches lead to, whatever the limits under which they are executed. -/
abbrev Reachable : Tree → Prop :=
  ReachableUnder Set.univ

theorem Reachable.after {tree : Tree} (reachable : tree.Reachable) (limits : Limits)
    (batch : Batch) : (tree.execute limits batch).tree.Reachable :=
  .execute reachable (Set.mem_univ limits) batch

/-- What holds of the fresh tree, outlasts the start of a batch and is kept by every edit
whose payload is within the limits holds of every reachable tree. -/
theorem ReachableUnder.preserves {permitted : Set Limits} {tree : Tree}
    (reachable : tree.ReachableUnder permitted) (property : Zxid → View → Prop)
    (initially : property 0 Tree.fresh.get?)
    (advance : ∀ {now view}, property now view → property (now + 1) view)
    (step : ∀ {limits now view edit after}, limits ∈ permitted → property now view →
      (∀ data ∈ Edit.data? edit, data.size ≤ limits.maxDataLength) →
      View.Step now view edit after → property now after) :
    property tree.zxid tree.get? := by
  induction reachable with
  | fresh => exact initially
  | @execute tree limits _ allowed batch ih =>
      generalize effect : tree.execute limits batch = ended
      have ends : tree.Ends limits batch ended := effect ▸ ends_execute ..
      cases ends with
      | empty => exact ih
      | aborted => exact ih
      | refused => exact ih
      | @committed _ overlay replies _ success _ =>
          have accepts := Overlay.acceptsAll_of_validateAll success
          have begun : property (Overlay.ofTree tree).zxid (Overlay.ofTree tree).get? :=
            advance ih
          have ended : property overlay.zxid overlay.get? := by
            apply accepts.preserves (fun overlay => property overlay.zxid overlay.get?) begun
            intro before staged edit holds fits stages
            rw [stages.zxid_eq]
            exact step allowed holds fits stages.step
          have base : overlay.base = tree := accepts.base_eq
          rw [← base]
          change property overlay.zxid (overlay.base.apply overlay.toChangeSet).get?
          rw [Overlay.get?_apply_toChangeSet]
          exact ended

theorem consistent_fresh : View.Consistent Tree.fresh.get? where
  root_exists := by simp [get?_fresh]
  parent_exists := by
    intro path segment present
    simp [get?_fresh, Path.extend_ne_root] at present
  mem_children_iff := by
    intro path node found name
    rw [get?_fresh] at found
    split at found
    · cases found
      simp only [get?_fresh, Path.extend_ne_root, if_false]
      constructor
      · intro member
        exact absurd member (Node.notMem_children_new _)
      · rintro ⟨-, -, impossible⟩
        cases impossible
    · cases found

/-- Every reachable tree is consistent. -/
theorem ReachableUnder.consistent {permitted : Set Limits} {tree : Tree}
    (reachable : tree.ReachableUnder permitted) : View.Consistent tree.get? :=
  reachable.preserves (fun _ view => view.Consistent) consistent_fresh id
    fun _ consistent _ step => consistent.step step

end Tree

/-- The trees that a store goes through are reachable, whoever watches. -/
theorem Store.reachableUnder_execute {permitted : Set Limits} {limits : Limits} {store : Store}
    (reachable : store.tree.ReachableUnder permitted) (allowed : limits ∈ permitted)
    (batch : Batch) : (store.execute limits batch).1.tree.ReachableUnder permitted := by
  rw [tree_execute]
  exact .execute reachable allowed batch

end BatchTree
