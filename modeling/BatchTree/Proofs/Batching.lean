import BatchTree.Proofs.Stamps

/-!
# Where a batch is cut makes no difference

Two batches executed one after the other come to the same as both executed as one, as long
as both commit; and the first operation that fails is the same, however the operations are
spread over batches.  What the second batch reads off the installed tree, the second part
of the joint batch reads off the overlay, and the two differ in the numbers of batches only.
-/

namespace BatchTree

namespace Overlay

variable {limits : Limits}

/-- The second part of a batch is judged against what the first has staged. -/
theorem validateAll_append (index : Nat) (overlay : Overlay) (first second : Batch) :
    overlay.validateAll limits index (first ++ second) =
      match overlay.validateAll limits index first with
      | .error failure => .error failure
      | .ok (staged, replies) =>
          match staged.validateAll limits (index + first.length) second with
          | .error failure => .error failure
          | .ok (final, others) => .ok (final, replies ++ others) := by
  induction first generalizing index overlay with
  | nil =>
      simp only [List.nil_append, validateAll, List.length_nil, Nat.add_zero]
      cases overlay.validateAll limits index second <;> rfl
  | cons operation rest ih =>
      rw [List.cons_append, validateAll, validateAll]
      cases overlay.validate limits operation with
      | error status => rfl
      | ok passed =>
          have later : index + 1 + rest.length = index + (operation :: rest).length := by
            rw [List.length_cons]
            omega
          dsimp only
          rw [ih, later]
          cases passed.1.validateAll limits (index + 1) rest with
          | error failure => rfl
          | ok first =>
              dsimp only
              cases first.1.validateAll limits (index + (operation :: rest).length) second <;> rfl

/-- The index of the first operation counts towards that of a failure and to nothing else. -/
theorem validateAll_add (offset index : Nat) (overlay : Overlay) (batch : Batch) :
    overlay.validateAll limits (offset + index) batch =
      (overlay.validateAll limits index batch).mapError
        fun failure => (offset + failure.1, failure.2) := by
  induction batch generalizing index overlay with
  | nil => rfl
  | cons operation rest ih =>
      rw [validateAll, validateAll]
      cases overlay.validate limits operation with
      | error status => rfl
      | ok passed =>
          dsimp only
          rw [Nat.add_assoc, ih]
          cases passed.1.validateAll limits (index + 1) rest <;> rfl

/-- A batch fails at one of its own operations. -/
theorem index_of_validateAll {start index : Nat} {overlay : Overlay} {batch : Batch}
    {status : Status} (failure : overlay.validateAll limits start batch = .error (index, status)) :
    start ≤ index ∧ index < start + batch.length := by
  induction batch generalizing start overlay with
  | nil => cases failure
  | cons operation rest ih =>
      rw [List.length_cons]
      rcases error_of_validateAll_cons failure with ⟨rfl, -⟩ | ⟨staged, reply, -, refused⟩
      · omega
      · have within := ih refused
        omega

end Overlay

namespace Tree

/-- The batch is committed. -/
def Commits (limits : Limits) (tree : Tree) (batch : Batch) : Prop :=
  (tree.execute limits batch).response.isCommitted = true

/-- The batch is aborted because operation `index` fails with `status`, and nothing is
left of it. -/
def Aborts (limits : Limits) (tree : Tree) (batch : Batch) (index : Nat) (status : Status) :
    Prop :=
  tree.execute limits batch = tree.unaffected (.aborted batch.length index status)

end Tree

/-- The batch is committed with the given replies and leads to the given tree, apart from
the numbers of batches. -/
structure Effect.CommitsAs (effect : Effect) (replies : List Reply) (after : Tree) : Prop where
  committed : effect.response.isCommitted = true
  replies_alike : effect.response.replies.map Reply.unstamped = replies.map Reply.unstamped
  tree_alike : View.Alike effect.tree.get? after.get?

namespace Tree

/-- How two batches executed one after the other compare with both as one. -/
structure Joins (limits : Limits) (tree : Tree) (first second : Batch) : Prop where
  first_ends : tree.Commits limits first ∨ ∃ index status, tree.Aborts limits first index status
  second_ends : (tree.execute limits first).tree.Commits limits second ∨
    ∃ index status, (tree.execute limits first).tree.Aborts limits second index status
  first_aborts : ∀ {index : Nat} {status : Status}, tree.Aborts limits first index status →
    tree.Aborts limits (first ++ second) index status
  second_aborts : ∀ {index : Nat} {status : Status}, tree.Commits limits first →
    (tree.execute limits first).tree.Aborts limits second index status →
      tree.Aborts limits (first ++ second) (first.length + index) status
  both_commit : tree.Commits limits first → (tree.execute limits first).tree.Commits limits second →
    (tree.execute limits (first ++ second)).CommitsAs
      ((tree.execute limits first).response.replies ++
        ((tree.execute limits first).tree.execute limits second).response.replies)
      ((tree.execute limits first).tree.execute limits second).tree

/-- Execute each operation as a batch of its own, up to the first that fails, the first one
having the given index.  Yields the last tree and the replies, or the index and the code of
the failure. -/
def executeEach (limits : Limits) (index : Nat) (tree : Tree) :
    Batch → Except (Nat × Status) (Tree × List Reply)
  | [] => .ok (tree, [])
  | operation :: rest =>
      let effect := tree.execute limits [operation]
      if effect.response.isCommitted then
        match effect.tree.executeEach limits (index + 1) rest with
        | .error failure => .error failure
        | .ok (last, replies) => .ok (last, effect.response.replies ++ replies)
      else
        .error (index, effect.response.outcome)

section Judged

variable {limits : Limits} {tree : Tree} {batch : Batch} {index : Nat} {status : Status}
  {overlay : Overlay} {replies : List Reply}

theorem aborts_of_error
    (failure : (Overlay.ofTree tree).validateAll limits 0 batch = .error (index, status)) :
    tree.Aborts limits batch index status := by
  apply execute_of_error _ failure
  rintro rfl
  cases failure

/-- What passes on a reachable tree is committed as it was judged. -/
theorem Reachable.commits_of_ok (reachable : tree.Reachable)
    (success : (Overlay.ofTree tree).validateAll limits 0 batch = .ok (overlay, replies)) :
    tree.Commits limits batch ∧ (tree.execute limits batch).response.replies = replies ∧
      (tree.execute limits batch).tree.get? = overlay.get? := by
  by_cases empty : batch = []
  · subst empty
    simp only [Overlay.validateAll, Except.ok.injEq, Prod.mk.injEq] at success
    obtain ⟨rfl, rfl⟩ := success
    refine ⟨rfl, rfl, ?_⟩
    funext path
    exact (Overlay.get?_ofTree tree path).symm
  · have base : overlay.base = tree := (Overlay.acceptsAll_of_validateAll success).base_eq
    rw [Commits, execute_of_ok empty success (reachable.install_of_ok success), ← base]
    exact ⟨rfl, rfl, overlay.get?_apply_toChangeSet⟩

/-- A batch that is aborted was judged so. -/
theorem Aborts.judged (aborts : tree.Aborts limits batch index status) :
    (Overlay.ofTree tree).validateAll limits 0 batch = .error (index, status) := by
  generalize effect : tree.execute limits batch = ended
  have ends : tree.Ends limits batch ended := effect ▸ ends_execute ..
  rw [Aborts, effect] at aborts
  have sameIndex := congrArg (·.response.failedIndex) aborts
  cases ends with
  | empty => cases sameIndex
  | refused => cases sameIndex
  | committed => cases sameIndex
  | aborted nonempty failure =>
      have sameStatus := congrArg (·.response.outcome) aborts
      cases sameIndex
      cases sameStatus
      exact failure

/-- A batch that is committed was judged so, and the store took what it had staged. -/
theorem Commits.judged (commits : tree.Commits limits batch) :
    ∃ overlay replies,
      (Overlay.ofTree tree).validateAll limits 0 batch = .ok (overlay, replies) ∧
      (batch ≠ [] → tree.install overlay.toChangeSet = .ok (tree.apply overlay.toChangeSet)) := by
  generalize effect : tree.execute limits batch = ended
  have ends : tree.Ends limits batch ended := effect ▸ ends_execute ..
  rw [Commits, effect] at commits
  cases ends with
  | empty => exact ⟨_, _, rfl, fun nonempty => absurd rfl nonempty⟩
  | @aborted _ index status nonempty failure =>
      have notCommitted := Response.isCommitted_aborted batch.length index
        (Overlay.validateAll_refusal failure)
      rw [unaffected, notCommitted] at commits
      cases commits
  | refused => cases commits
  | committed nonempty success installed => exact ⟨_, _, success, fun _ => installed⟩

theorem Commits.not_aborts (commits : tree.Commits limits batch) :
    ¬tree.Aborts limits batch index status := by
  intro aborts
  obtain ⟨overlay, replies, success, -⟩ := commits.judged
  rw [aborts.judged] at success
  cases success

theorem Reachable.commits_or_aborts (reachable : tree.Reachable) :
    tree.Commits limits batch ∨ ∃ index status, tree.Aborts limits batch index status := by
  cases judged : (Overlay.ofTree tree).validateAll limits 0 batch with
  | error failure => exact .inr ⟨failure.1, failure.2, aborts_of_error judged⟩
  | ok passed => exact .inl (reachable.commits_of_ok judged).1

end Judged

variable {tree : Tree}

/-- Once the first batch is installed, the second is judged as it is on top of the overlay
that the first has left. -/
theorem Reachable.judged_alike (reachable : tree.Reachable) {limits : Limits}
    {first : Batch} {staged : Overlay} {replies : List Reply}
    (success : (Overlay.ofTree tree).validateAll limits 0 first = .ok (staged, replies))
    (second : Batch) :
    Flat.EndsAlike
      (fun (one two : Overlay × List Reply) =>
        View.Alike one.1.get? two.1.get? ∧
          one.2.map Reply.unstamped = two.2.map Reply.unstamped)
      (staged.validateAll limits 0 second)
      ((Overlay.ofTree (tree.execute limits first).tree).validateAll limits 0 second) := by
  have installed : (Overlay.ofTree (tree.execute limits first).tree).get? = staged.get? := by
    rw [← (reachable.commits_of_ok success).2.2]
    funext path
    exact Overlay.get?_ofTree _ path
  apply Overlay.validateAll_alike
  rw [installed]
  exact .refl _

/-- Two batches on a reachable tree can be joined. -/
theorem Reachable.joins (reachable : tree.Reachable) (limits : Limits) (first second : Batch) :
    tree.Joins limits first second where
  first_ends := reachable.commits_or_aborts
  second_ends := (reachable.after limits first).commits_or_aborts
  first_aborts := by
    intro index status aborts
    apply aborts_of_error
    rw [Overlay.validateAll_append, aborts.judged]
  second_aborts := by
    intro index status commits aborts
    obtain ⟨staged, replies, success, -⟩ := commits.judged
    have judged := reachable.judged_alike success second
    rw [aborts.judged] at judged
    generalize onOverlay : staged.validateAll limits 0 second = left at judged
    cases judged with
    | error =>
        apply aborts_of_error
        rw [Overlay.validateAll_append, success]
        dsimp only
        rw [Nat.add_comm, Overlay.validateAll_add, onOverlay]
        rfl
  both_commit := by
    intro commits commitsToo
    obtain ⟨staged, replies, success, -⟩ := commits.judged
    obtain ⟨last, others, successToo, -⟩ := commitsToo.judged
    have judged := reachable.judged_alike success second
    rw [successToo] at judged
    generalize onOverlay : staged.validateAll limits 0 second = left at judged
    cases judged with
    | @ok passed _ holds =>
        have whole : (Overlay.ofTree tree).validateAll limits 0 (first ++ second) =
            .ok (passed.1, replies ++ passed.2) := by
          rw [Overlay.validateAll_append, success]
          dsimp only
          rw [Nat.add_comm, Overlay.validateAll_add, onOverlay]
          rfl
        obtain ⟨committed, isReplies, isTree⟩ := reachable.commits_of_ok whole
        obtain ⟨-, isFirst, -⟩ := reachable.commits_of_ok success
        obtain ⟨-, isSecond, isLast⟩ := (reachable.after limits first).commits_of_ok successToo
        refine ⟨committed, ?_, ?_⟩
        · rw [isReplies, isFirst, isSecond, List.map_append, List.map_append, holds.2]
        · rw [isTree, isLast]
          exact holds.1

/-- A batch comes to what its operations come to one at a time. -/
theorem Reachable.executeEach_agrees (reachable : tree.Reachable) (limits : Limits)
    (start : Nat) (batch : Batch) :
    match tree.executeEach limits start batch with
    | .error (index, status) =>
        ∃ offset, index = start + offset ∧ tree.Aborts limits batch offset status
    | .ok (last, replies) => (tree.execute limits batch).CommitsAs replies last := by
  induction batch generalizing tree start with
  | nil => exact ⟨rfl, rfl, .refl _⟩
  | cons operation rest ih =>
      have joins := reachable.joins limits [operation] rest
      simp only [executeEach]
      rcases joins.first_ends with commits | ⟨index, status, aborts⟩
      · have others := ih (reachable.after limits [operation]) (start + 1)
        have committed : (tree.execute limits [operation]).response.isCommitted = true := commits
        rw [if_pos committed]
        generalize Tree.executeEach limits (start + 1) (tree.execute limits [operation]).tree rest =
          each at others
        cases each with
        | error failure =>
            obtain ⟨offset, isIndex, aborts⟩ := others
            refine ⟨1 + offset, ?_, joins.second_aborts commits aborts⟩
            rw [isIndex, Nat.add_assoc]
        | ok last =>
            have both := joins.both_commit commits others.committed
            refine ⟨both.committed, ?_, both.tree_alike.trans others.tree_alike⟩
            rw [List.map_append, ← others.replies_alike, ← List.map_append]
            exact both.replies_alike
      · have notCommitted : ¬(tree.execute limits [operation]).response.isCommitted = true :=
          fun commits => Commits.not_aborts commits aborts
        have within := Overlay.index_of_validateAll aborts.judged
        rw [List.length_singleton] at within
        obtain rfl : index = 0 := by omega
        rw [if_neg notCommitted, aborts]
        exact ⟨0, rfl, joins.first_aborts aborts⟩

/-- Where a batch is cut makes no difference: two batches compare with both as one as
`Joins` says, and a batch with its operations executed one at a time likewise, up to the
first that fails. -/
theorem Reachable.batching_agrees (reachable : tree.Reachable) (limits : Limits) :
    (∀ first second : Batch, tree.Joins limits first second) ∧
      ∀ batch : Batch,
        match tree.executeEach limits 0 batch with
        | .error (index, status) => tree.Aborts limits batch index status
        | .ok (last, replies) => (tree.execute limits batch).CommitsAs replies last := by
  refine ⟨reachable.joins limits, fun batch => ?_⟩
  have agrees := reachable.executeEach_agrees limits 0 batch
  generalize tree.executeEach limits 0 batch = each at agrees
  cases each with
  | error failure =>
      obtain ⟨index, status⟩ := failure
      obtain ⟨offset, isIndex, aborts⟩ := agrees
      rw [Nat.zero_add] at isIndex
      subst isIndex
      exact aborts
  | ok last => exact agrees

/-- In particular for a sequential create that the first batch makes, and for a second batch
that sets its data, deletes it and creates its successor. -/
theorem batching_agrees_on_queue :
    let tree := (Tree.fresh.execute {} [.create "/q" ByteArray.empty .persistent]).tree
    let first : Batch := [.create "/q/" ByteArray.empty .sequential]
    let second : Batch := [.setData "/q/0000000000" "data".toUTF8 0,
      .delete "/q/0000000000" 1, .create "/q/" ByteArray.empty .sequential]
    tree.Reachable ∧ tree.Joins {} first second ∧
      (match tree.executeEach {} 0 (first ++ second) with
        | .error (index, status) => tree.Aborts {} (first ++ second) index status
        | .ok (last, replies) =>
            (tree.execute {} (first ++ second)).CommitsAs replies last) ∧
      (tree.execute {} (first ++ second)).response.replies.getLast? =
        some (.created "/q/0000000002") := by
  intro tree first second
  have reachable : tree.Reachable :=
    Reachable.after .fresh {} [.create "/q" ByteArray.empty .persistent]
  have agrees := reachable.batching_agrees {}
  exact ⟨reachable, agrees.1 first second, agrees.2 (first ++ second), by decide +kernel⟩

end Tree

end BatchTree
