import BatchTree.Proofs.Batching

/-!
# Building and tearing down

A batch that creates nodes and then deletes them, the last one first, leaves every path as it
was.  All that is left is a trace in the parents that were there before: each of them counts two
changes for every child that has come and gone (`Tree.Reachable.tears_down`).
-/

namespace BatchTree

/-- The record of a node below which `count` children have come and gone again in batch `now`. -/
def Stat.revisited (stat : Stat) (now : Zxid) (count : Nat) : Stat :=
  if count = 0 then stat else { stat with cversion := stat.cversion + 2 * count, pzxid := now }

/-- A child that comes and goes counts twice, whatever has come and gone in between. -/
theorem Stat.touchChildren_revisited {stat : Stat} {now : Zxid} {size between count : Nat}
    (counted : stat.numChildren = clampSize size) :
    ((stat.touchChildren now between).revisited now count).touchChildren now size =
      stat.revisited now (count + 1) := by
  rw [revisited, revisited, if_neg (Nat.succ_ne_zero count)]
  split
  · next none => simp [touchChildren, counted, none, Int.add_assoc]
  · have twice (earlier : Int) : earlier + 1 + 2 * count + 1 = earlier + 2 * (count + 1) := by
      omega
    simp [touchChildren, counted, twice]

namespace Node

variable {node : Node} {name : String} {now : Zxid} {count : Nat}

/-- The node after `count` children have come and gone again below it in batch `now`. -/
def revisited (node : Node) (now : Zxid) (count : Nat) : Node :=
  { node with stat := node.stat.revisited now count }

@[simp] theorem revisited_zero : node.revisited now 0 = node := rfl

@[simp] theorem version_revisited : (node.revisited now count).version = node.version := by
  rw [version, revisited, Stat.revisited]
  split <;> rfl

theorem erase_insert_of_notMem {names : Names} (absent : name ∉ names) :
    (names.insert name).erase name = names := by
  apply Std.ExtTreeSet.ext_mem
  intro other
  rw [Std.ExtTreeSet.mem_erase, Std.ExtTreeSet.mem_insert, ne_eq,
    Std.LawfulEqCmp.compare_eq_iff_eq]
  constructor
  · rintro ⟨different, same | present⟩
    · exact absurd same different
    · exact present
  · intro present
    refine ⟨?_, .inr present⟩
    rintro rfl
    exact absent present

/-- Taking back a child that was added leaves a trace in the record alone. -/
theorem withoutChild_revisited (absent : name ∉ node.children)
    (counted : node.stat.numChildren = clampSize node.children.size) :
    ((node.addChild name now).revisited now count).withoutChild name now =
      node.revisited now (count + 1) := by
  have added : name ∈ (node.addChild name now).children := mem_children_addChild.2 (.inl rfl)
  have present : name ∈ ((node.addChild name now).revisited now count).children := added
  have restored : ((node.addChild name now).revisited now count).children.erase name =
      node.children := erase_insert_of_notMem absent
  rw [withoutChild_of_mem present, restored]
  simp only [revisited, addChild, Stat.touchChildren_revisited counted]

end Node

/-- How many of the paths lead one step down from `parent`. -/
def childrenAmong (paths : List Path) (parent : Path) : Nat :=
  paths.countP fun path => path.parent? = some parent

namespace View

variable {view after : View} {now : Zxid} {edit : Edit} {parent : Path} {segment : Segment}
  {above : Node} {data : Payload} {made : List Path}

/-- The view after nodes have come and gone again at the paths, in batch `now`. -/
def revisited (view : View) (now : Zxid) (made : List Path) : View := fun path =>
  (view path).map fun node => node.revisited now (childrenAmong made path)

theorem revisited_nil : view.revisited now [] = view := by
  funext path
  simp [revisited, childrenAmong]

/-- The view is consistent, and every node has its children counted. -/
structure Tallied (view : View) : Prop where
  consistent : view.Consistent
  numChildren_eq : ∀ {path : Path} {node : Node}, view path = some node →
    node.stat.numChildren = clampSize node.children.size

theorem tallied_fresh : View.Tallied Tree.fresh.get? where
  consistent := Tree.consistent_fresh
  numChildren_eq := by
    intro path node found
    rw [Tree.get?_fresh] at found
    split at found
    · cases found
      rfl
    · cases found

theorem Tallied.step (tallied : view.Tallied) (step : Step now view edit after) :
    after.Tallied where
  consistent := tallied.consistent.step step
  numChildren_eq := by
    intro path node found
    rcases step.new_or_touched tallied.consistent found with
      ⟨-, data, -, rfl⟩ | ⟨before, standing, touched⟩
    · rfl
    · have counted := tallied.numChildren_eq standing
      cases touched with
      | untouched => exact counted
      | withData => exact counted
      | withChild => rfl
      | withoutChild present =>
          rw [Node.withoutChild_of_mem present]
          rfl

/-- A node that was created is deleted again, when all below it has come and gone. -/
theorem withDeleted_revisited (tallied : view.Tallied) (found : view parent = some above)
    (free : view (parent.extend segment) = none) :
    ((view.withCreated now parent segment above data).revisited now made).withDeleted now parent
        segment ((above.addChild segment.name now).revisited now (childrenAmong made parent)) =
      view.revisited now (parent.extend segment :: made) := by
  have absent : segment.name ∉ above.children := by
    rw [tallied.consistent.name_mem_children_iff found, free]
    exact Bool.false_ne_true
  funext path
  by_cases deleted : path = parent.extend segment
  · subst deleted
    rw [withDeleted_self, revisited, free, Option.map_none]
  · by_cases touched : path = parent
    · subst touched
      rw [withDeleted_parent, Node.withoutChild_revisited absent (tallied.numChildren_eq found),
        revisited, found, Option.map_some]
      simp [childrenAmong]
    · rw [withDeleted_of_ne _ touched deleted, revisited, withCreated_of_ne view touched deleted,
        revisited]
      simp [childrenAmong, Ne.symm touched]

end View

/-- Every node of a reachable tree has its children counted. -/
theorem Tree.ReachableUnder.tallied {permitted : Set Limits} {tree : Tree}
    (reachable : tree.ReachableUnder permitted) : View.Tallied tree.get? :=
  reachable.preserves (fun _ view => view.Tallied) View.tallied_fresh id
    fun _ tallied _ step => tallied.step step

/-- The batch that deletes the nodes that were made, the last one first. -/
def Batch.tearDown (expected : Path → Version) (made : List Path) : Batch :=
  made.reverse.map fun path => .delete path.text (expected path)

theorem Batch.tearDown_cons (expected : Path → Version) (first : Path) (others : List Path) :
    tearDown expected (first :: others) =
      tearDown expected others ++ [.delete first.text (expected first)] := by
  rw [tearDown, List.reverse_cons, List.map_append, tearDown]
  rfl

namespace Overlay

variable {limits : Limits} {overlay built : Overlay} {parent : Path} {segment : Segment}
  {above node : Node} {version : Version} {creates : Batch} {replies : List Reply}

/-- A node that is bare and at the expected version can be deleted. -/
theorem delete_extend (found : overlay.get? parent = some above)
    (taken : overlay.get? (parent.extend segment) = some node)
    (admitted : version.admits node.version = true) (bare : node.hasChildren = false) :
    overlay.delete (parent.extend segment).text version =
      .ok (overlay.withDeleted parent segment above, .deleted) := by
  rw [delete, readPath_of_ok (Path.parse_text _)]
  dsimp only
  rw [Path.isRoot_extend, if_neg Bool.false_ne_true, expectNode_eq_ok_iff.2 ⟨taken, admitted⟩]
  dsimp only
  rw [bare, if_neg Bool.false_ne_true, stageDelete?_extend found taken bare]

/-- Once `overlay` has come to `built` by making the nodes at the paths, the batch that deletes
them leads on to `cleared`, which shows what `overlay` showed but for the traces. -/
structure Clears (limits : Limits) (overlay built cleared : Overlay) (expected : Path → Version)
    (made : List Path) : Prop where
  base_eq : cleared.base = overlay.base
  get?_eq : cleared.get? = View.revisited overlay.get? overlay.zxid made
  passes : ∀ index, built.validateAll limits index (.tearDown expected made) =
    .ok (cleared, List.replicate made.length .deleted)

/-- The node that was made first is deleted last, when the others have come and gone. -/
theorem Clears.afterCreate {target : Path} {staged cleared : Overlay} {data : Payload}
    {expected : Path → Version} {made : List Path}
    (clears : staged.Clears limits built cleared expected made)
    (tallied : View.Tallied overlay.get?) (stages : overlay.Stages (.create target data) staged)
    (allowed : expected target = 0 ∨ expected target = anyVersion) :
    ∃ emptied, overlay.Clears limits built emptied expected (target :: made) := by
  have sameZxid : cleared.zxid = overlay.zxid := by
    rw [zxid, clears.base_eq, stages.base_eq, zxid]
  have shows := clears.get?_eq
  have step := stages.step
  rw [stages.zxid_eq] at shows
  generalize staged.get? = after at step shows
  cases step with
  | @create parent segment above _ found free =>
      let again := (above.addChild segment.name overlay.zxid).revisited overlay.zxid
        (childrenAmong made parent)
      have foundAgain : cleared.get? parent = some again := by
        rw [shows, View.revisited, View.withCreated_parent, Option.map_some]
      have taken : cleared.get? (parent.extend segment) =
          some ((Node.new data overlay.zxid).revisited overlay.zxid
            (childrenAmong made (parent.extend segment))) := by
        rw [shows, View.revisited, View.withCreated_self, Option.map_some]
      have deleted : cleared.delete (parent.extend segment).text
          (expected (parent.extend segment)) =
            .ok (cleared.withDeleted parent segment again, .deleted) := by
        apply delete_extend foundAgain taken
        · rw [Node.version_revisited]
          exact Version.admits_iff.2 allowed.symm
        · rfl
      refine ⟨cleared.withDeleted parent segment again, ?_, ?_, ?_⟩
      · rw [← stages.base_eq, ← clears.base_eq]
        rfl
      · rw [get?_withDeleted, shows, sameZxid]
        exact View.withDeleted_revisited tallied found free
      · intro index
        rw [Batch.tearDown_cons, validateAll_append, clears.passes]
        simp only [validateAll, validate, deleted, List.length_cons, List.replicate_succ']

/-- What a batch of creates has made can be deleted again, the last node first. -/
theorem AcceptsAll.clears (accepts : overlay.AcceptsAll limits creates built replies)
    (onlyCreates : ∀ operation ∈ creates, operation.kind = .create)
    (tallied : View.Tallied overlay.get?) :
    ∃ made : List Path, replies = made.map (.created ·.text) ∧ ∀ expected : Path → Version,
      (∀ path ∈ made, expected path = 0 ∨ expected path = anyVersion) →
        ∃ cleared, overlay.Clears limits built cleared expected made := by
  induction accepts with
  | nil overlay =>
      exact ⟨[], rfl, fun _ _ => ⟨overlay, rfl, View.revisited_nil.symm, fun _ => rfl⟩⟩
  | @cons overlay staged built operation rest reply replies first others ih =>
      have isCreate := onlyCreates operation List.mem_cons_self
      cases first with
      | delete => cases isCreate
      | setData => cases isCreate
      | check => cases isCreate
      | @create text data mode target _ fits names stages =>
          obtain ⟨made, rfl, clears⟩ :=
            ih (fun other later => onlyCreates other (List.mem_cons_of_mem _ later))
              (tallied.step stages.step)
          refine ⟨target :: made, rfl, fun expected allowed => ?_⟩
          obtain ⟨cleared, clearsOthers⟩ :=
            clears expected fun path later => allowed path (List.mem_cons_of_mem _ later)
          exact clearsOthers.afterCreate tallied stages (allowed target List.mem_cons_self)

end Overlay

namespace Tree

/-- The batch of creates is committed together with the deletes of what it makes, and leaves
nothing but the traces. -/
structure TearsDown (limits : Limits) (tree : Tree) (creates : Batch) (expected : Path → Version)
    (made : List Path) : Prop where
  commits : tree.Commits limits (creates ++ .tearDown expected made)
  replies_eq : (tree.execute limits (creates ++ .tearDown expected made)).response.replies =
    made.map (.created ·.text) ++ List.replicate made.length .deleted
  zxid_eq : (tree.execute limits (creates ++ .tearDown expected made)).tree.zxid = tree.zxid + 1
  get?_eq : ∀ path, (tree.execute limits (creates ++ .tearDown expected made)).tree.get? path =
    (tree.get? path).map fun node =>
      node.revisited (tree.zxid + 1) (childrenAmong made path)

/-- A batch of creates that is committed can be followed, in the same batch, by the deletes of
all that it makes, the last node first.  Then every path is as it was before, but that a node
has two more changes of its children on record for each child that has come and gone. -/
theorem Reachable.tears_down {tree : Tree} (reachable : tree.Reachable) {limits : Limits}
    {creates : Batch} (nonempty : creates ≠ [])
    (onlyCreates : ∀ operation ∈ creates, operation.kind = .create)
    (commits : tree.Commits limits creates) :
    ∃ made : List Path,
      (tree.execute limits creates).response.replies = made.map (.created ·.text) ∧
      ∀ expected : Path → Version,
        (∀ path ∈ made, expected path = 0 ∨ expected path = anyVersion) →
          tree.TearsDown limits creates expected made := by
  obtain ⟨built, replies, success, -⟩ := commits.judged
  obtain ⟨-, isReplies, -⟩ := reachable.commits_of_ok success
  have tallied : View.Tallied (Overlay.ofTree tree).get? := reachable.tallied
  obtain ⟨made, rfl, clears⟩ :=
    (Overlay.acceptsAll_of_validateAll success).clears onlyCreates tallied
  refine ⟨made, isReplies, fun expected allowed => ?_⟩
  obtain ⟨cleared, clearsAll⟩ := clears expected allowed
  have whole : (Overlay.ofTree tree).validateAll limits 0 (creates ++ .tearDown expected made) =
      .ok (cleared, made.map (.created ·.text) ++ List.replicate made.length .deleted) := by
    rw [Overlay.validateAll_append, success]
    dsimp only
    rw [clearsAll.passes]
  obtain ⟨committed, replied, shows⟩ := reachable.commits_of_ok whole
  have numbered := (number_of_committed committed).1
  rw [if_neg (List.append_ne_nil_of_left_ne_nil nonempty _)] at numbered
  refine ⟨committed, replied, numbered, ?_⟩
  intro path
  rw [shows, clearsAll.get?_eq, get?_ofTree_eq]
  rfl

/-- In particular for nodes of which one is below another and one takes its name from a counter,
one of them being deleted at version 0. -/
theorem tears_down_of_nested :
    let tree := (Tree.fresh.execute {} [.create "/a" ByteArray.empty .persistent]).tree
    let creates : Batch := [.create "/a/x" "data".toUTF8 .persistent,
      .create "/a/x/y" ByteArray.empty .persistent, .create "/a/n-" ByteArray.empty .sequential,
      .create "/b" ByteArray.empty .persistent]
    let expected : Path → Version := fun path => if path.text = "/a/x" then 0 else anyVersion
    tree.Reachable ∧ creates ≠ [] ∧ (∀ operation ∈ creates, operation.kind = .create) ∧
      tree.Commits {} creates ∧
      ∃ made : List Path,
        made.map (Reply.created ·.text) =
          [.created "/a/x", .created "/a/x/y", .created "/a/n-0000000001", .created "/b"] ∧
        tree.TearsDown {} creates expected made := by
  intro tree creates expected
  have reachable : tree.Reachable :=
    Reachable.after .fresh {} [.create "/a" ByteArray.empty .persistent]
  have nonempty : creates ≠ [] := List.cons_ne_nil _ _
  have onlyCreates : ∀ operation ∈ creates, operation.kind = .create := by decide
  have commits : tree.Commits {} creates := by
    rw [Commits]
    decide +kernel
  obtain ⟨made, isReplies, tearsDown⟩ := reachable.tears_down nonempty onlyCreates commits
  have allowed : ∀ path ∈ made, expected path = 0 ∨ expected path = anyVersion := by
    intro path _
    by_cases first : path.text = "/a/x"
    · exact .inl (if_pos first)
    · exact .inr (if_neg first)
  refine ⟨reachable, nonempty, onlyCreates, commits, made, ?_, tearsDown expected allowed⟩
  rw [← isReplies]
  decide +kernel

end Tree

end BatchTree
