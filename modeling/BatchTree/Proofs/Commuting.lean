import BatchTree.Proofs.Batching
import BatchTree.Proofs.Footprint

/-!
# Independent batches commute

A batch leaves the paths outside its footprint as they are, and how it ends depends on what
stands inside its footprint only.  So two batches whose footprints have no path in common
can be executed in either order: each of them is answered the same, and the last trees show
the same, apart from the numbers of batches (`Tree.Reachable.commutes`).
-/

namespace BatchTree

/-- The two responses tell the same, apart from the numbers of batches. -/
structure Response.Alike (left right : Response) : Prop where
  outcome_eq : left.outcome = right.outcome
  failedIndex_eq : left.failedIndex = right.failedIndex
  numbered_eq : left.zxid.isSome = right.zxid.isSome
  replies_alike : left.replies.map Reply.unstamped = right.replies.map Reply.unstamped

theorem Response.Alike.refl (response : Response) : response.Alike response :=
  ⟨rfl, rfl, rfl, rfl⟩

theorem Response.Alike.symm {left right : Response} (alike : left.Alike right) :
    right.Alike left :=
  ⟨alike.outcome_eq.symm, alike.failedIndex_eq.symm, alike.numbered_eq.symm,
    alike.replies_alike.symm⟩

namespace Tree

/-- No counter outgrows its record while the batch is judged on the tree. -/
def StaysInRange (limits : Limits) (tree : Tree) (batch : Batch) : Prop :=
  (Overlay.ofTree tree).StaysInRange limits batch

/-- A batch stays in range on a tree whose counters leave room for its operations. -/
theorem Reachable.staysInRange {tree : Tree} {limits : Limits} {batch : Batch}
    (reachable : tree.Reachable)
    (room : ∀ entry ∈ tree.toList, Path.LeavesRoom batch.length entry.2.stat.cversion) :
    tree.StaysInRange limits batch := by
  apply Overlay.staysInRange_of_hasRoom
  rw [get?_ofTree_eq]
  refine ⟨reachable.consistent, ?_⟩
  intro path node found
  exact room (path, node) (Std.ExtTreeMap.mem_toList_iff_getElem?_eq_some.2 found)

/-- The batch does the same to two trees, and does it within its footprint. -/
structure TakeAlike (limits : Limits) (batch : Batch) (left right : Tree) : Prop where
  response_alike :
    Response.Alike (left.execute limits batch).response (right.execute limits batch).response
  tree_alike : View.AlikeOn batch.footprint (left.execute limits batch).tree.get?
    (right.execute limits batch).tree.get?
  left_spared : ∀ path ∉ batch.footprint,
    (left.execute limits batch).tree.get? path = left.get? path
  right_spared : ∀ path ∉ batch.footprint,
    (right.execute limits batch).tree.get? path = right.get? path

/-- How two batches executed in one order compare with the same two in the other order. -/
structure Commutes (limits : Limits) (tree : Tree) (first second : Batch) : Prop where
  first_alike : Response.Alike (tree.execute limits first).response
    ((tree.execute limits second).tree.execute limits first).response
  second_alike : Response.Alike ((tree.execute limits first).tree.execute limits second).response
    (tree.execute limits second).response
  trees_alike : View.Alike ((tree.execute limits first).tree.execute limits second).tree.get?
    ((tree.execute limits second).tree.execute limits first).tree.get?

variable {tree left right : Tree} {limits : Limits} {batch first second : Batch}

/-- What passes on a reachable tree is answered with its replies, and with a number unless
nothing was asked for. -/
theorem Reachable.response_of_ok (reachable : tree.Reachable) {overlay : Overlay}
    {replies : List Reply}
    (success : (Overlay.ofTree tree).validateAll limits 0 batch = .ok (overlay, replies)) :
    (tree.execute limits batch).response =
      .committed replies (if batch = [] then none else some (tree.zxid + 1)) := by
  by_cases empty : batch = []
  · subst empty
    simp only [Overlay.validateAll, Except.ok.injEq, Prod.mk.injEq] at success
    rw [if_pos rfl, ← success.2]
    rfl
  · have base : overlay.base = tree := (Overlay.acceptsAll_of_validateAll success).base_eq
    rw [if_neg empty, execute_of_ok empty success (reachable.install_of_ok success), ← base]
    rfl

/-- What a batch does is decided by what stands in its footprint. -/
theorem Reachable.takeAlike (reachable : left.Reachable) (reachableToo : right.Reachable)
    (alike : View.AlikeOn batch.footprint left.get? right.get?)
    (bounded : left.StaysInRange limits batch) : TakeAlike limits batch left right := by
  have shown : View.AlikeOn batch.footprint (Overlay.ofTree left).get?
      (Overlay.ofTree right).get? := by
    rwa [get?_ofTree_eq, get?_ofTree_eq]
  have judged := Overlay.validateAll_alikeOn shown
    (Overlay.readsWithin_footprint bounded Set.Subset.rfl) 0
  generalize isOne : (Overlay.ofTree left).validateAll limits 0 batch = one at judged
  generalize isTwo : (Overlay.ofTree right).validateAll limits 0 batch = two at judged
  cases judged with
  | error failure =>
      have aborts : left.Aborts limits batch failure.1 failure.2 := aborts_of_error isOne
      have abortsToo : right.Aborts limits batch failure.1 failure.2 := aborts_of_error isTwo
      refine ⟨?_, ?_, ?_, ?_⟩
      · rw [aborts, abortsToo]
        exact .refl _
      · rw [aborts, abortsToo]
        exact alike
      · rw [aborts]
        exact fun _ _ => rfl
      · rw [abortsToo]
        exact fun _ _ => rfl
  | @ok passed passedToo holds =>
      obtain ⟨moved, replies⟩ := holds
      have shows := (reachable.commits_of_ok isOne).2.2
      have showsToo := (reachableToo.commits_of_ok isTwo).2.2
      refine ⟨?_, ?_, ?_, ?_⟩
      · rw [reachable.response_of_ok isOne, reachableToo.response_of_ok isTwo]
        refine ⟨rfl, rfl, ?_, replies⟩
        by_cases empty : batch = []
        · simp [Response.committed, empty]
        · simp [Response.committed, empty]
      · rw [shows, showsToo]
        exact moved.alike
      · intro path outside
        rw [shows, moved.left_spared path outside, get?_ofTree_eq]
      · intro path outside
        rw [showsToo, moved.right_spared path outside, get?_ofTree_eq]

/-- A batch does not write the footprint of another that is independent of it. -/
theorem Reachable.alikeOn_execute (reachable : tree.Reachable)
    (bounded : tree.StaysInRange limits first) (independent : first.IndependentOf second) :
    View.AlikeOn second.footprint tree.get? (tree.execute limits first).tree.get? := by
  have takes := reachable.takeAlike reachable (fun _ _ => rfl) bounded
  intro path mem
  rw [View.unstamped, View.unstamped, takes.left_spared path (independent.symm path mem)]

/-- Independent batches can be executed in either order, as long as no counter
outgrows its record. -/
theorem Reachable.commutes (reachable : tree.Reachable)
    (independent : first.IndependentOf second)
    (bounded : tree.StaysInRange limits first) (boundedToo : tree.StaysInRange limits second) :
    tree.Commutes limits first second := by
  have firstTakes := reachable.takeAlike (reachable.after limits second)
    (reachable.alikeOn_execute boundedToo independent.symm) bounded
  have secondTakes := reachable.takeAlike (reachable.after limits first)
    (reachable.alikeOn_execute bounded independent) boundedToo
  refine ⟨firstTakes.response_alike, secondTakes.response_alike.symm, ?_⟩
  funext path
  by_cases inFirst : path ∈ first.footprint
  · have outside := independent path inFirst
    rw [View.unstamped, secondTakes.right_spared path outside]
    exact firstTakes.tree_alike inFirst
  · by_cases inSecond : path ∈ second.footprint
    · rw [View.unstamped, View.unstamped, firstTakes.right_spared path inFirst]
      exact (secondTakes.tree_alike inSecond).symm
    · rw [View.unstamped, View.unstamped, secondTakes.right_spared path inSecond,
        firstTakes.left_spared path inFirst, firstTakes.right_spared path inFirst,
        secondTakes.left_spared path inSecond]

/-- In particular for a batch that makes two sequential nodes below one parent, and one that
replaces a node below another. -/
theorem commutes_below_two_parents :
    let tree := (Tree.fresh.execute {}
      [.create "/a" ByteArray.empty .persistent, .create "/b" ByteArray.empty .persistent,
        .create "/b/x" ByteArray.empty .persistent]).tree
    let first : Batch := [.create "/a/n-" ByteArray.empty .sequential,
      .create "/a/n-" ByteArray.empty .sequential]
    let second : Batch := [.delete "/b/x" 0, .create "/b/" "data".toUTF8 .sequential,
      .check "/b/0000000002" 0]
    tree.Reachable ∧ first.IndependentOf second ∧
      tree.StaysInRange {} first ∧ tree.StaysInRange {} second ∧
      tree.Commutes {} first second ∧
      ((tree.execute {} first).tree.execute {} second).response.replies =
        [.deleted, .created "/b/0000000002", .checked] := by
  intro tree first second
  have reachable : tree.Reachable := Reachable.after .fresh {} _
  have independent : first.IndependentOf second := by
    let place (text : String) : Path := (Path.parse text).toOption.getD .root
    have below : first.WorksBelow (place "/a") := by decide +kernel
    have belowToo : second.WorksBelow (place "/b") := by decide +kernel
    exact below.independent belowToo (by decide +kernel) (by decide +kernel)
      (by decide +kernel)
  have bounded : tree.StaysInRange {} first := reachable.staysInRange (by decide +kernel)
  have boundedToo : tree.StaysInRange {} second := reachable.staysInRange (by decide +kernel)
  exact ⟨reachable, independent, bounded, boundedToo,
    reachable.commutes independent bounded boundedToo, by decide +kernel⟩

end Tree

end BatchTree
