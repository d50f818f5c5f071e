import BatchTree.Proofs.Reachability

/-!
# Validation suffices

Two judges look at a batch: the validators, operation by operation, and the store, when
the whole set is to be installed.  On a reachable tree the second never overrules the
first, because every call on an overlay keeps its view consistent and the store has
nothing to say against a consistent view.
-/

namespace BatchTree

namespace Overlay

/-- A call that a user of an overlay can make. -/
inductive Call where
  | edit (edit : Edit)
  | validate (limits : Limits) (operation : Operation)

/-- The overlay after a call.  One that fails leaves it as it was. -/
def perform (overlay : Overlay) : Call → Overlay
  | .edit edit => (overlay.edit? edit).getD overlay
  | .validate limits operation =>
      match overlay.validate limits operation with
      | .ok (staged, _) => staged
      | .error _ => overlay

/-- The overlay after a sequence of calls. -/
def performAll (overlay : Overlay) : List Call → Overlay
  | [] => overlay
  | call :: rest => (overlay.perform call).performAll rest

/-- Every call stages one edit or nothing. -/
theorem perform_stages_or_eq (overlay : Overlay) (call : Call) :
    (∃ edit, overlay.Stages edit (overlay.perform call)) ∨ overlay.perform call = overlay := by
  cases call with
  | edit edit =>
      cases success : overlay.edit? edit with
      | none => exact .inr (by rw [perform, success, Option.getD_none])
      | some staged =>
          refine .inl ⟨edit, ?_⟩
          rw [perform, success, Option.getD_some]
          exact stages_of_edit? success
  | validate limits operation =>
      rw [perform]
      split
      · rename_i staged reply success
        rcases (accepts_of_validate success).stages_or_eq with ⟨edit, -, stages⟩ | same
        · exact .inl ⟨edit, stages⟩
        · exact .inr same
      · exact .inr rfl

/-- Calls leave the tree alone and the overlay consistent. -/
theorem performAll_consistent {overlay : Overlay} (consistent : View.Consistent overlay.get?)
    (calls : List Call) :
    (overlay.performAll calls).base = overlay.base ∧
      View.Consistent (overlay.performAll calls).get? := by
  induction calls generalizing overlay with
  | nil => exact ⟨rfl, consistent⟩
  | cons call rest ih =>
      rw [performAll]
      rcases overlay.perform_stages_or_eq call with ⟨edit, stages⟩ | same
      · have later := ih (consistent.step stages.step)
        exact ⟨later.1.trans stages.base_eq, later.2⟩
      · rw [same]
        exact ih consistent

/-- A batch that passes is a sequence of calls. -/
theorem performAll_validate {limits : Limits} {index : Nat} {overlay final : Overlay}
    {batch : Batch} {replies : List Reply}
    (success : overlay.validateAll limits index batch = .ok (final, replies)) :
    overlay.performAll (batch.map (.validate limits)) = final := by
  induction batch generalizing index overlay replies with
  | nil =>
      simp only [validateAll, Except.ok.injEq, Prod.mk.injEq] at success
      exact success.1
  | cons operation rest ih =>
      obtain ⟨staged, reply, others, passed, passedAll, -⟩ := ok_of_validateAll_cons success
      rw [List.map_cons, performAll, perform, passed]
      exact ih passedAll

end Overlay

namespace Tree

/-- Whatever calls have staged on a reachable tree is installed on it. -/
theorem Reachable.install_performAll {tree : Tree} (reachable : tree.Reachable)
    (calls : List Overlay.Call) :
    tree.install ((Overlay.ofTree tree).performAll calls).toChangeSet =
      .ok (tree.apply ((Overlay.ofTree tree).performAll calls).toChangeSet) := by
  have base : View.Consistent (Overlay.ofTree tree).get? := reachable.consistent
  obtain ⟨same, consistent⟩ := Overlay.performAll_consistent base calls
  have onBase : View.Consistent ((Overlay.ofTree tree).performAll calls).base.get? := by
    rw [same]
    exact reachable.consistent
  have installed := Overlay.install_toChangeSet onBase consistent
  rwa [same] at installed

/-- A batch that passes on a reachable tree is installed. -/
theorem Reachable.install_of_ok {tree : Tree} (reachable : tree.Reachable) {limits : Limits}
    {batch : Batch} {overlay : Overlay} {replies : List Reply}
    (success : (Overlay.ofTree tree).validateAll limits 0 batch = .ok (overlay, replies)) :
    tree.install overlay.toChangeSet = .ok (tree.apply overlay.toChangeSet) := by
  have installed := reachable.install_performAll (batch.map (.validate limits))
  rwa [Overlay.performAll_validate success] at installed

/-- On a reachable tree the store installs whatever calls have staged, so no batch is
ever answered as unavailable, whoever watches. -/
theorem Reachable.validation_suffices {tree : Tree} (reachable : tree.Reachable) :
    (∀ calls : List Overlay.Call, ∃ installed,
      tree.install ((Overlay.ofTree tree).performAll calls).toChangeSet = .ok installed) ∧
    (∀ (limits : Limits) (watchers : Broadcast Mailbox) (batch : Batch) (response : Response),
      (Store.execute limits ⟨tree, watchers⟩ batch).2 = .answered response →
        response.outcome ≠ .unavailable) := by
  refine ⟨fun calls => ⟨_, reachable.install_performAll calls⟩, ?_⟩
  intro limits watchers batch response answered
  generalize effect : tree.execute limits batch = ended
  have ends : tree.Ends limits batch ended := effect ▸ ends_execute ..
  cases ends with
  | empty =>
      rw [Store.execute_unaffected effect] at answered
      cases answered
      decide
  | @aborted _ _ status nonempty failure =>
      rw [Store.execute_unaffected effect] at answered
      cases answered
      intro unavailable
      have refusal := Overlay.validateAll_refusal failure
      have same : status = .unavailable := unavailable
      rw [same] at refusal
      exact absurd refusal (by decide)
  | refused nonempty success refusal =>
      rw [reachable.install_of_ok success] at refusal
      cases refusal
  | committed nonempty success installed =>
      rw [Store.execute, effect] at answered
      dsimp only at answered
      split at answered
      · cases answered
        intro unavailable
        cases unavailable
      · cases answered

/-- In particular on the tree that a first create leads to. -/
theorem validation_suffices_after_create :
    let tree := (Tree.fresh.execute {} [.create "/a" ByteArray.empty .persistent]).tree
    tree.zxid = 1 ∧ tree.Reachable ∧
      (∀ calls : List Overlay.Call, ∃ installed,
        tree.install ((Overlay.ofTree tree).performAll calls).toChangeSet = .ok installed) ∧
      (∀ (limits : Limits) (watchers : Broadcast Mailbox) (batch : Batch) (response : Response),
        (Store.execute limits ⟨tree, watchers⟩ batch).2 = .answered response →
          response.outcome ≠ .unavailable) := by
  intro tree
  have reachable : tree.Reachable := Reachable.after .fresh {} _
  exact ⟨by decide, reachable, reachable.validation_suffices⟩

end Tree

end BatchTree
