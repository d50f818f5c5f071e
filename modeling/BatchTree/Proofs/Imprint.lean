import BatchTree.Proofs.Reachability
import BatchTree.Proofs.Touch

/-!
# The number that a batch leaves

A batch leaves its number in every node that it changes, and in no other.  Its edits write
that number wherever they write at all, and no older node can bear it, because the stamps of
a reachable tree never run ahead of its last batch (`View.Dated`).
-/

namespace BatchTree

/-- The edit that an operation comes to when it is answered so.  A check comes to none. -/
inductive Operation.ComesTo : Operation → Reply → Edit → Prop where
  | create {text : String} {data : Payload} {mode : CreateMode} (target : Path) :
      ComesTo (.create text data mode) (.created target.text) (.create target data)
  | delete {text : String} {version : Version} {target : Path}
      (read : Path.parse text = .ok target) :
      ComesTo (.delete text version) .deleted (.delete target)
  | setData {text : String} {data : Payload} {version : Version} {target : Path} {stat : Stat}
      (read : Path.parse text = .ok target) :
      ComesTo (.setData text data version) (.dataSet stat) (.setData target data)

theorem Operation.ComesTo.kind_ne_check {operation : Operation} {reply : Reply} {edit : Edit}
    (comes : operation.ComesTo reply edit) : operation.kind ≠ .check := by
  cases comes with
  | create => exact Operation.Kind.noConfusion
  | delete => exact Operation.Kind.noConfusion
  | setData => exact Operation.Kind.noConfusion

/-- The edit is one of those that the batch comes to when it is answered so. -/
def Batch.ComesTo (batch : Batch) (replies : List Reply) (edit : Edit) : Prop :=
  ∃ answered ∈ batch.zip replies, Operation.ComesTo answered.1 answered.2 edit

namespace Node

variable {now : Zxid} {edit : Edit} {node after : Node}

/-- The number of the batch stands in one of the stamps. -/
def Bears (node : Node) (zxid : Zxid) : Prop :=
  node.stat.czxid = zxid ∨ node.stat.mzxid = zxid ∨ node.stat.pzxid = zxid

/-- No stamp is younger than batch `now`. -/
structure Dated (now : Zxid) (node : Node) : Prop where
  czxid_le : node.stat.czxid ≤ now
  mzxid_le : node.stat.mzxid ≤ now
  pzxid_le : node.stat.pzxid ≤ now

theorem dated_new (data : Payload) (now : Zxid) : (new data now).Dated now :=
  ⟨Int.le_refl now, Int.le_refl now, Int.le_refl now⟩

theorem Dated.advance (dated : node.Dated now) : node.Dated (now + 1) :=
  ⟨Int.le_add_one dated.czxid_le, Int.le_add_one dated.mzxid_le, Int.le_add_one dated.pzxid_le⟩

theorem Dated.touched (dated : node.Dated now) (touched : node.Touched now edit after) :
    after.Dated now := by
  cases touched with
  | untouched => exact dated
  | withData => exact { dated with mzxid_le := Int.le_refl now }
  | withChild => exact { dated with pzxid_le := Int.le_refl now }
  | withoutChild present =>
      rw [withoutChild_of_mem present]
      exact { dated with pzxid_le := Int.le_refl now }

/-- The next batch has a number that the node does not bear. -/
theorem Dated.not_bears (dated : node.Dated now) : ¬node.Bears (now + 1) := by
  rintro (created | changed | parented)
  · exact Int.ne_of_lt (Int.lt_add_one_of_le dated.czxid_le) created
  · exact Int.ne_of_lt (Int.lt_add_one_of_le dated.mzxid_le) changed
  · exact Int.ne_of_lt (Int.lt_add_one_of_le dated.pzxid_le) parented

theorem bears_new (data : Payload) (now : Zxid) : (new data now).Bears now :=
  .inl rfl

/-- A node that an edit has written bears the number of the batch. -/
theorem Touched.eq_or_bears (touched : node.Touched now edit after) :
    after = node ∨ after.Bears now := by
  cases touched with
  | untouched => exact .inl rfl
  | withData => exact .inr (.inr (.inl rfl))
  | withChild => exact .inr (.inr (.inr rfl))
  | withoutChild present =>
      rw [withoutChild_of_mem present]
      exact .inr (.inr (.inr rfl))

end Node

namespace View

variable {now : Zxid} {base view after : View} {edit : Edit}

/-- The view is consistent, and none of its stamps is younger than batch `now`. -/
structure Dated (now : Zxid) (view : View) : Prop where
  consistent : view.Consistent
  node : ∀ {path : Path} {node : Node}, view path = some node → node.Dated now

theorem dated_fresh : View.Dated 0 Tree.fresh.get? where
  consistent := Tree.consistent_fresh
  node := by
    intro path node found
    rw [Tree.get?_fresh] at found
    split at found
    · cases found
      exact Node.dated_new _ 0
    · cases found

theorem Dated.advance (dated : view.Dated now) : view.Dated (now + 1) where
  consistent := dated.consistent
  node found := (dated.node found).advance

theorem Dated.step (dated : view.Dated now) (step : Step now view edit after) :
    after.Dated now where
  consistent := dated.consistent.step step
  node := by
    intro path node found
    rcases step.new_or_touched dated.consistent found with
      ⟨-, data, -, rfl⟩ | ⟨before, standing, touched⟩
    · exact Node.dated_new data now
    · exact (dated.node standing).touched touched

/-- Every node of the view stands in the base as it is, or it bears the number of the batch. -/
def MarkedSince (view base : View) (now : Zxid) : Prop :=
  ∀ path node, view path = some node → base path = some node ∨ Node.Bears node now

theorem MarkedSince.step (marked : view.MarkedSince base now) (consistent : view.Consistent)
    (step : Step now view edit after) : after.MarkedSince base now := by
  intro path node found
  rcases step.new_or_touched consistent found with
    ⟨-, data, -, rfl⟩ | ⟨before, standing, touched⟩
  · exact .inr (Node.bears_new data now)
  · rcases touched.eq_or_bears with rfl | bears
    · exact marked path node standing
    · exact .inr bears

end View

namespace Overlay

variable {limits : Limits} {overlay staged final : Overlay} {operation : Operation} {reply : Reply}
  {batch : Batch} {replies : List Reply} {path : Path}

/-- An accepted operation stages the edit that it comes to, or it is a check. -/
theorem Accepts.comesTo_or_eq (accepts : overlay.Accepts limits operation staged reply) :
    (∃ edit, operation.ComesTo reply edit ∧ overlay.Stages edit staged) ∨ staged = overlay := by
  cases accepts with
  | create _ _ stages => exact .inl ⟨_, .create _, stages⟩
  | delete read _ _ stages => exact .inl ⟨_, .delete read, stages⟩
  | setData _ read _ _ stages => exact .inl ⟨_, .setData read, stages⟩
  | check => exact .inr rfl

/-- A path that no edit of the batch touches reads as before. -/
theorem AcceptsAll.eq_of_not_touches (accepts : overlay.AcceptsAll limits batch final replies)
    (spared : ∀ edit, batch.ComesTo replies edit → ¬edit.Touches path) :
    final.get? path = overlay.get? path := by
  induction accepts with
  | nil => rfl
  | @cons overlay staged final operation rest reply replies first _ ih =>
      have later : ∀ edit, Batch.ComesTo rest replies edit → ¬edit.Touches path := by
        rintro edit ⟨answered, member, comes⟩
        exact spared edit ⟨answered, List.mem_cons_of_mem _ member, comes⟩
      rw [ih later]
      rcases first.comesTo_or_eq with ⟨edit, comes, stages⟩ | same
      · apply stages.step.eq_of_not_touches
        exact spared edit ⟨(operation, reply), List.mem_cons_self, comes⟩
      · rw [same]

/-- A batch marks what it changes. -/
theorem AcceptsAll.markedSince (accepts : overlay.AcceptsAll limits batch final replies)
    (consistent : View.Consistent overlay.get?) :
    View.MarkedSince final.get? overlay.get? overlay.zxid := by
  have kept : final.zxid = overlay.zxid ∧ View.Consistent final.get? ∧
      View.MarkedSince final.get? overlay.get? overlay.zxid := by
    apply accepts.preserves fun later => later.zxid = overlay.zxid ∧
      View.Consistent later.get? ∧ View.MarkedSince later.get? overlay.get? overlay.zxid
    · exact ⟨rfl, consistent, fun _ _ => .inl⟩
    · rintro before staged edit ⟨current, standing, marked⟩ - stages
      have step := stages.step
      rw [current] at step
      exact ⟨stages.zxid_eq.trans current, standing.step step, marked.step standing step⟩
  exact kept.2.2

end Overlay

namespace Tree

variable {tree : Tree}

/-- No stamp of a reachable tree is younger than its last batch. -/
theorem ReachableUnder.dated {permitted : Set Limits} (reachable : tree.ReachableUnder permitted) :
    View.Dated tree.zxid tree.get? :=
  reachable.preserves View.Dated View.dated_fresh View.Dated.advance
    fun _ dated _ step => dated.step step

/-- A batch that has got a number has passed and is installed under it. -/
theorem ok_of_numbered {limits : Limits} {batch : Batch} {zxid : Zxid}
    (numbered : (tree.execute limits batch).response.zxid = some zxid) :
    ∃ overlay replies,
      (Overlay.ofTree tree).validateAll limits 0 batch = .ok (overlay, replies) ∧
      (tree.execute limits batch).response.replies = replies ∧
      (tree.execute limits batch).tree = tree.apply overlay.toChangeSet ∧ zxid = tree.zxid + 1 := by
  generalize effect : tree.execute limits batch = ended at numbered
  have ends : tree.Ends limits batch ended := effect ▸ ends_execute ..
  cases ends with
  | empty => cases numbered
  | aborted => cases numbered
  | refused => cases numbered
  | @committed _ overlay replies _ success _ =>
      cases numbered
      have base : overlay.base = tree := (Overlay.acceptsAll_of_validateAll success).base_eq
      exact ⟨overlay, replies, success, rfl, rfl, by rw [← base]; rfl⟩

/-- What a batch that is installed under `zxid` has changed, and where it has left that number. -/
structure Imprinted (limits : Limits) (tree : Tree) (batch : Batch) (zxid : Zxid) : Prop where
  /-- Only what an edit touches can change, be it a node or the lack of one. -/
  spared : ∀ path,
    (∀ edit, batch.ComesTo (tree.execute limits batch).response.replies edit →
      ¬edit.Touches path) →
        (tree.execute limits batch).tree.get? path = tree.get? path
  /-- The number stands in the nodes that are new or changed, and in no others. -/
  bears_iff : ∀ path node, (tree.execute limits batch).tree.get? path = some node →
    (node.Bears zxid ↔
      tree.get? path = none ∨ ∃ before, tree.get? path = some before ∧ before ≠ node)
  checks : (∀ operation ∈ batch, operation.kind = .check) →
    (tree.execute limits batch).tree = { tree with zxid := zxid }

/-- A batch on a reachable tree leaves its number in what it changes, and changes nothing but
what its edits touch. -/
theorem Reachable.imprinted (reachable : tree.Reachable) {limits : Limits} {batch : Batch}
    {zxid : Zxid} (numbered : (tree.execute limits batch).response.zxid = some zxid) :
    tree.Imprinted limits batch zxid := by
  obtain ⟨overlay, replies, success, isReplies, isTree, rfl⟩ := ok_of_numbered numbered
  have accepts := Overlay.acceptsAll_of_validateAll success
  have base : overlay.base = tree := accepts.base_eq
  have shows : (tree.execute limits batch).tree.get? = overlay.get? := by
    rw [isTree, ← base]
    exact overlay.get?_apply_toChangeSet
  have spared : ∀ path, (∀ edit, batch.ComesTo replies edit → ¬edit.Touches path) →
      overlay.get? path = tree.get? path := by
    intro path spares
    rw [accepts.eq_of_not_touches spares, get?_ofTree_eq]
  constructor
  case spared =>
    rw [isReplies, shows]
    exact spared
  case bears_iff =>
    intro path node found
    rw [shows] at found
    have marked := accepts.markedSince (get?_ofTree_eq ▸ reachable.consistent) path node found
    rw [get?_ofTree_eq] at marked
    constructor
    · intro bears
      cases standing : tree.get? path with
      | none => exact .inl rfl
      | some before =>
          refine .inr ⟨before, rfl, ?_⟩
          rintro rfl
          exact (reachable.dated.node standing).not_bears bears
    · intro changed
      rcases marked with same | bears
      · rcases changed with missing | ⟨before, standing, different⟩
        · rw [missing] at same
          cases same
        · rw [standing, Option.some.injEq] at same
          exact absurd same different
      · exact bears
  case checks =>
    intro checks
    have still : overlay.get? = tree.get? := by
      funext path
      apply spared path
      rintro edit ⟨answered, member, comes⟩
      exact absurd (checks answered.1 (List.of_mem_zip member).1) comes.kind_ne_check
    rw [isTree]
    apply Tree.ext
    · apply Std.ExtTreeMap.ext_getElem?
      intro path
      have here := congrFun (shows.trans still) path
      rwa [isTree] at here
    · change overlay.base.zxid + 1 = tree.zxid + 1
      rw [base]

/-- In particular a batch that replaces one child of a node, changes the data of another node
and checks a third. -/
theorem imprinted_by_replacement :
    let tree := (Tree.fresh.execute {}
      [.create "/a" ByteArray.empty .persistent, .create "/a/b" ByteArray.empty .persistent,
        .create "/c" ByteArray.empty .persistent]).tree
    let batch : Batch := [.delete "/a/b" 0, .create "/a/b" ByteArray.empty .persistent,
      .setData "/c" "data".toUTF8 0, .check "/" (-1)]
    tree.Reachable ∧ (tree.execute {} batch).response.zxid = some 2 ∧
      tree.Imprinted {} batch 2 := by
  intro tree batch
  have reachable : tree.Reachable := Reachable.after .fresh {} _
  have numbered : (tree.execute {} batch).response.zxid = some 2 := by decide +kernel
  exact ⟨reachable, numbered, reachable.imprinted numbered⟩

end Tree

end BatchTree
