import BatchTree.Proofs.ByteOrder
import BatchTree.Proofs.Reachability
import BatchTree.Proofs.Touch
import Mathlib.Algebra.Group.Int.Even
import Mathlib.Data.Set.Insert

/-!
# Bookkeeping

Existence, child names and the records of nodes are kept side by side, in separate nodes,
and each edit writes several of them.  On a reachable tree they all agree
(`Tree.ReachableUnder.wellKept`).
-/

namespace BatchTree

/-- The record of a node agrees with the node, as of batch `now`. -/
structure Node.WellKept (limits : Limits) (now : Zxid) (node : Node) : Prop where
  data_le : node.data.size ≤ limits.maxDataLength
  dataLength_eq : node.stat.dataLength = clampSize node.data.size
  numChildren_eq : node.stat.numChildren = clampSize node.children.size
  version_nonneg : 0 ≤ node.stat.version
  children_le : node.children.size ≤ node.stat.cversion
  /-- The difference is twice the number of removals. -/
  children_even : Even (node.stat.cversion - node.children.size)
  czxid_le_mzxid : node.stat.czxid ≤ node.stat.mzxid
  mzxid_le : node.stat.mzxid ≤ now
  czxid_le_pzxid : node.stat.czxid ≤ node.stat.pzxid
  pzxid_le : node.stat.pzxid ≤ now
  mzxid_eq : node.stat.version = 0 → node.stat.mzxid = node.stat.czxid
  pzxid_eq : node.stat.cversion = 0 → node.stat.pzxid = node.stat.czxid

namespace Node

variable {limits : Limits} {now later : Zxid} {node after : Node} {name : String} {data : Payload}
  {edit : Edit}

theorem wellKept_new (fits : data.size ≤ limits.maxDataLength) :
    (new data now).WellKept limits now where
  data_le := fits
  dataLength_eq := rfl
  numChildren_eq := rfl
  version_nonneg := Int.le_refl 0
  children_le := Int.le_refl 0
  children_even := Even.zero
  czxid_le_mzxid := Int.le_refl now
  mzxid_le := Int.le_refl now
  czxid_le_pzxid := Int.le_refl now
  pzxid_le := Int.le_refl now
  mzxid_eq _ := rfl
  pzxid_eq _ := rfl

namespace WellKept

theorem mono (kept : node.WellKept limits now) (passed : now ≤ later) :
    node.WellKept limits later :=
  { kept with
    mzxid_le := Int.le_trans kept.mzxid_le passed
    pzxid_le := Int.le_trans kept.pzxid_le passed }

theorem czxid_le (kept : node.WellKept limits now) : node.stat.czxid ≤ now :=
  Int.le_trans kept.czxid_le_mzxid kept.mzxid_le

theorem cversion_nonneg (kept : node.WellKept limits now) : 0 ≤ node.stat.cversion :=
  Int.le_trans (Int.natCast_nonneg _) kept.children_le

theorem setData (kept : node.WellKept limits now) (fits : data.size ≤ limits.maxDataLength) :
    (node.setData data now).WellKept limits now :=
  { kept with
    data_le := fits
    dataLength_eq := rfl
    version_nonneg := Int.le_add_one kept.version_nonneg
    czxid_le_mzxid := kept.czxid_le
    mzxid_le := Int.le_refl now
    mzxid_eq := fun never =>
      absurd never (Int.ne_of_gt (Int.lt_add_one_of_le kept.version_nonneg)) }

/-- Whatever names are written into a node, if the count of changes allows as many. -/
theorem touchChildren (kept : node.WellKept limits now) {children : Names}
    (bounded : children.size ≤ node.stat.cversion + 1)
    (even : Even (node.stat.cversion + 1 - children.size)) :
    WellKept limits now
      { node with children := children, stat := node.stat.touchChildren now children.size } :=
  { kept with
    numChildren_eq := rfl
    children_le := bounded
    children_even := even
    czxid_le_pzxid := kept.czxid_le
    pzxid_le := Int.le_refl now
    pzxid_eq := fun never =>
      absurd never (Int.ne_of_gt (Int.lt_add_one_of_le kept.cversion_nonneg)) }

theorem addChild (kept : node.WellKept limits now) (absent : name ∉ node.children) :
    (node.addChild name now).WellKept limits now := by
  have size : (node.children.insert name).size = node.children.size + 1 := by
    simp [Std.ExtTreeSet.size_insert, absent]
  have bounded := kept.children_le
  have even := kept.children_even
  apply kept.touchChildren
  · grind
  · -- One change more and one child more: the difference is the same.
    grind

theorem withoutChild (kept : node.WellKept limits now) (present : name ∈ node.children) :
    (node.withoutChild name now).WellKept limits now := by
  have size : (node.children.erase name).size = node.children.size - 1 := by
    simp [Std.ExtTreeSet.size_erase, present]
  have nonempty : node.children.size ≠ 0 := by
    intro zero
    rw [← Std.ExtTreeSet.eq_empty_iff_size_eq_zero] at zero
    rw [zero] at present
    exact Std.ExtTreeSet.not_mem_empty present
  have bounded := kept.children_le
  have even := kept.children_even
  rw [withoutChild_of_mem present]
  apply kept.touchChildren
  · grind
  · -- One change more and one child less: the difference grows by two.
    grind

theorem touched (kept : node.WellKept limits now) (touched : node.Touched now edit after)
    (fits : ∀ data ∈ edit.data?, data.size ≤ limits.maxDataLength) :
    after.WellKept limits now := by
  cases touched with
  | untouched => exact kept
  | withData stored => exact kept.setData (fits _ stored)
  | withChild absent => exact kept.addChild absent
  | withoutChild present => exact kept.withoutChild present

end WellKept

end Node

/-- Every record of a view agrees with what the view shows, as of batch `now`. -/
structure View.WellKept (limits : Limits) (now : Zxid) (view : View) : Prop where
  consistent : view.Consistent
  node : ∀ {path : Path} {node : Node}, view path = some node → node.WellKept limits now
  root_czxid : ∀ {node : Node}, view Path.root = some node → node.stat.czxid = 0
  czxid_between : ∀ {parent : Path} {segment : Segment} {above node : Node},
    view parent = some above → view (parent.extend segment) = some node →
      above.stat.czxid ≤ node.stat.czxid ∧ node.stat.czxid ≤ above.stat.pzxid

namespace View

variable {limits : Limits} {now : Zxid} {view after : View} {edit : Edit}

theorem wellKept_fresh (limits : Limits) : View.WellKept limits 0 Tree.fresh.get? where
  consistent := Tree.consistent_fresh
  node := by
    intro path node found
    rw [Tree.get?_fresh] at found
    split at found
    · cases found
      exact Node.wellKept_new (Nat.zero_le _)
    · cases found
  root_czxid := by
    intro node found
    rw [Tree.get?_fresh, if_pos rfl] at found
    cases found
    rfl
  czxid_between := by
    intro parent segment above node _ found
    rw [Tree.get?_fresh, if_neg (Path.extend_ne_root parent segment)] at found
    cases found

namespace WellKept

/-- The next batch begins. -/
theorem advance (kept : view.WellKept limits now) : view.WellKept limits (now + 1) :=
  { kept with node := fun found => (kept.node found).mono (Int.le_add_one (Int.le_refl now)) }

/-- The stamp of the children never goes back. -/
theorem pzxid_le_of_touched (kept : view.WellKept limits now) {path : Path} {before node : Node}
    (found : view path = some before) (touched : before.Touched now edit node) :
    before.stat.pzxid ≤ node.stat.pzxid := by
  rcases touched.pzxid_eq with same | stamped
  · rw [same]
  · rw [stamped]
    exact (kept.node found).pzxid_le

theorem step (kept : view.WellKept limits now) (step : Step now view edit after)
    (fits : ∀ data ∈ edit.data?, data.size ≤ limits.maxDataLength) :
    after.WellKept limits now where
  consistent := kept.consistent.step step
  node := by
    intro path node found
    rcases step.new_or_touched kept.consistent found with
      ⟨-, data, rfl, rfl⟩ | ⟨before, standing, touched⟩
    · exact Node.wellKept_new (fits data rfl)
    · exact (kept.node standing).touched touched fits
  root_czxid := by
    intro node found
    rcases step.new_or_touched kept.consistent found with
      ⟨missing, -⟩ | ⟨before, standing, touched⟩
    · have present := kept.consistent.root_exists
      rw [missing] at present
      cases present
    · rw [touched.czxid_eq]
      exact kept.root_czxid standing
  czxid_between := by
    intro parent segment above node foundAbove found
    rcases step.new_or_touched kept.consistent found with
      ⟨-, data, rfl, rfl⟩ | ⟨before, standing, touched⟩
    · -- The child is new: the parent stood before, and the create has stamped it.
      obtain ⟨old, standingAbove, stamped⟩ := step.parent_of_create
      rw [foundAbove, Option.some.injEq] at stamped
      subst stamped
      exact ⟨(kept.node standingAbove).czxid_le, Int.le_refl now⟩
    · -- The child stood before, and so did the parent.
      rcases step.new_or_touched kept.consistent foundAbove with
        ⟨missing, -⟩ | ⟨old, standingAbove, touchedAbove⟩
      · rw [kept.consistent.extend_eq_none missing segment] at standing
        cases standing
      · have between := kept.czxid_between standingAbove standing
        rw [touched.czxid_eq, touchedAbove.czxid_eq]
        exact ⟨between.1,
          Int.le_trans between.2 (kept.pzxid_le_of_touched standingAbove touchedAbove)⟩

end WellKept

end View

/-- The names of a node are listed in strictly ascending byte order. -/
theorem Node.childNames_ascending (node : Node) :
    (node.childNames.map Text.bytes).Pairwise (· < ·) := by
  rw [List.pairwise_map]
  apply Std.ExtTreeSet.ordered_toList.imp
  intro left right less
  exact Text.bytes_lt_iff.2 (compareOfLessAndEq_eq_lt.1 less)

namespace Tree

/-- What is kept in a tree agrees with itself and with the number of the last batch. -/
structure WellKept (limits : Limits) (tree : Tree) : Prop where
  root_exists : ∃ root, tree.get? Path.root = some root ∧ root.stat.czxid = 0
  parent_exists : ∀ {path : Path}, path ≠ Path.root → tree.contains path →
    ∃ parent, path.parent? = some parent ∧ tree.contains parent
  mem_childNames_iff : ∀ {path : Path} {node : Node}, tree.get? path = some node →
    ∀ name, name ∈ node.childNames ↔
      ∃ child, tree.contains child ∧ child.parent? = some path ∧ child.name = name
  ascending : ∀ {path : Path} {node : Node}, tree.get? path = some node →
    (node.childNames.map Text.bytes).Pairwise (· < ·)
  record : ∀ {path : Path} {node : Node}, tree.get? path = some node →
    node.WellKept limits tree.zxid
  czxid_between : ∀ {path child : Path} {above node : Node}, child.parent? = some path →
    tree.get? path = some above → tree.get? child = some node →
      above.stat.czxid ≤ node.stat.czxid ∧ node.stat.czxid ≤ above.stat.pzxid

/-- Every record of a reachable tree agrees with what the tree shows. -/
theorem ReachableUnder.view_wellKept {limits : Limits} {tree : Tree}
    (reachable : tree.ReachableUnder {limits}) : View.WellKept limits tree.zxid tree.get? := by
  apply reachable.preserves (View.WellKept limits) (View.wellKept_fresh limits)
    View.WellKept.advance
  intro allowed now view edit after isAllowed kept fits step
  rw [Set.mem_singleton_iff] at isAllowed
  subst isAllowed
  exact kept.step step fits

/-- Every tree that batches lead to under one bound for payloads is well kept. -/
theorem ReachableUnder.wellKept {limits : Limits} {tree : Tree}
    (reachable : tree.ReachableUnder {limits}) : tree.WellKept limits := by
  have kept := reachable.view_wellKept
  constructor
  case root_exists =>
    obtain ⟨root, found⟩ := Option.isSome_iff_exists.1 kept.consistent.root_exists
    exact ⟨root, found, kept.root_czxid found⟩
  case parent_exists =>
    intro path notRoot present
    rcases Path.eq_root_or_extend path with rfl | ⟨parent, segment, rfl⟩
    · exact absurd rfl notRoot
    · exact ⟨parent, Path.parent?_extend parent segment,
        kept.consistent.parent_exists parent segment present⟩
  case mem_childNames_iff =>
    intro path node found name
    rw [Node.childNames, Std.ExtTreeSet.mem_toList, kept.consistent.mem_children_iff found]
    constructor
    · rintro ⟨segment, rfl, present⟩
      exact ⟨path.extend segment, present, Path.parent?_extend path segment,
        Path.name_extend path segment⟩
    · rintro ⟨child, present, isParent, rfl⟩
      obtain ⟨segment, rfl⟩ := Path.parent?_eq_some_iff.1 isParent
      exact ⟨segment, (Path.name_extend path segment).symm, present⟩
  case ascending =>
    intro path node _
    exact node.childNames_ascending
  case record =>
    intro path node found
    exact kept.node found
  case czxid_between =>
    intro path child above node isParent foundAbove found
    obtain ⟨segment, rfl⟩ := Path.parent?_eq_some_iff.1 isParent
    exact kept.czxid_between foundAbove found

/-- In particular the tree on which one batch has created two nodes and deleted one. -/
theorem wellKept_after_delete :
    let limits : Limits := { maxDataLength := 8 }
    let tree := (Tree.fresh.execute limits
      [.create "/a" "data".toUTF8 .persistent, .create "/a/b" ByteArray.empty .persistent,
        .delete "/a/b" 0]).tree
    tree.zxid = 1 ∧ tree.ReachableUnder {limits} ∧ tree.WellKept limits := by
  intro limits tree
  have reachable : tree.ReachableUnder {limits} := .execute .fresh (Set.mem_singleton limits) _
  exact ⟨by decide, reachable, reachable.wellKept⟩

end Tree

end BatchTree
