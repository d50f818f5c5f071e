import BatchTree.Proofs.Descent
import BatchTree.Tree.ChangeSet
import Mathlib.Logic.Function.Basic

/-!
# Views

A tree and an overlay are read alike: a path leads to a node or to nothing.  A view
is that reading, without the store behind it.  This module says once what each edit
does to a view, and that an edit leaves a consistent view consistent.
-/

namespace BatchTree

namespace Node

variable {node : Node} {name other : String} {zxid : Zxid}

theorem hasChild_iff : node.hasChild name = true ↔ name ∈ node.children := by
  rw [hasChild, Std.ExtTreeSet.mem_iff_contains]

theorem hasChildren_eq_false_iff :
    node.hasChildren = false ↔ ∀ name, name ∉ node.children := by
  rw [hasChildren, Bool.not_eq_false', Std.ExtTreeSet.isEmpty_iff,
    Std.ExtTreeSet.eq_empty_iff_forall_not_mem]

theorem notMem_children_new (data : Payload) : name ∉ (new data zxid).children :=
  Std.ExtTreeSet.not_mem_empty

@[simp] theorem children_setData (data : Payload) :
    (node.setData data zxid).children = node.children := rfl

theorem mem_children_addChild :
    other ∈ (node.addChild name zxid).children ↔ name = other ∨ other ∈ node.children := by
  rw [addChild, Std.ExtTreeSet.mem_insert, Std.LawfulEqCmp.compare_eq_iff_eq]

theorem withoutChild_of_mem (present : name ∈ node.children) :
    node.withoutChild name zxid =
      { node with
        children := node.children.erase name
        stat := node.stat.touchChildren zxid (node.children.erase name).size } := by
  rw [withoutChild, removeChild?, if_pos (hasChild_iff.2 present), Option.getD_some]

theorem withoutChild_of_notMem (missing : name ∉ node.children) :
    node.withoutChild name zxid = node := by
  rw [withoutChild, removeChild?, if_neg (mt hasChild_iff.1 missing), Option.getD_none]

theorem mem_children_withoutChild :
    other ∈ (node.withoutChild name zxid).children ↔ name ≠ other ∧ other ∈ node.children := by
  by_cases present : name ∈ node.children
  · rw [withoutChild_of_mem present, Std.ExtTreeSet.mem_erase, ne_eq,
      Std.LawfulEqCmp.compare_eq_iff_eq]
  · rw [withoutChild_of_notMem present]
    constructor
    · intro found
      refine ⟨?_, found⟩
      rintro rfl
      exact present found
    · exact And.right

end Node

/-- The node that each path leads to, if it leads to one. -/
abbrev View := Path → Option Node

/-- One change that can be staged. -/
inductive Edit where
  | create (path : Path) (data : Payload)
  | delete (path : Path)
  | setData (path : Path) (data : Payload)
  deriving DecidableEq

namespace Edit

/-- The payload that an edit stores. -/
def data? : Edit → Option Payload
  | create _ data => some data
  | delete _ => none
  | setData _ data => some data

/-- The change that an edit is logged as, if it leads to the view `after`. -/
def change (after : View) : Edit → Change
  | create path _ => .create path
  | delete path => .delete path
  | setData path _ => .setData path ((after path).elim 0 Node.version)

end Edit

namespace View

/-- A new node below `parent`, where `above` stands; the parent names it. -/
def withCreated (view : View) (now : Zxid) (parent : Path) (segment : Segment) (above : Node)
    (data : Payload) : View :=
  Function.update
    (Function.update view parent (some (above.addChild segment.name now)))
    (parent.extend segment) (some (.new data now))

/-- No node below `parent`, where `above` stands; the parent names it no more. -/
def withDeleted (view : View) (now : Zxid) (parent : Path) (segment : Segment)
    (above : Node) : View :=
  Function.update
    (Function.update view parent (some (above.withoutChild segment.name now)))
    (parent.extend segment) none

/-- New data for the node that stands at `path`. -/
def withData (view : View) (now : Zxid) (path : Path) (node : Node) (data : Payload) : View :=
  Function.update view path (some (node.setData data now))

/-- What batch `now` makes of a view by one edit. -/
inductive Step (now : Zxid) (view : View) : Edit → View → Prop where
  | create {parent : Path} {segment : Segment} {above : Node} {data : Payload}
      (found : view parent = some above) (free : view (parent.extend segment) = none) :
      Step now view (.create (parent.extend segment) data)
        (view.withCreated now parent segment above data)
  | delete {parent : Path} {segment : Segment} {above node : Node}
      (found : view parent = some above) (taken : view (parent.extend segment) = some node)
      (bare : node.hasChildren = false) :
      Step now view (.delete (parent.extend segment))
        (view.withDeleted now parent segment above)
  | setData {path : Path} {node : Node} {data : Payload} (taken : view path = some node) :
      Step now view (.setData path data) (view.withData now path node data)

section Lookup

variable (view : View) {now : Zxid} {parent path : Path} {segment : Segment} {above node : Node}
  {data : Payload}

@[simp] theorem withCreated_self :
    view.withCreated now parent segment above data (parent.extend segment) =
      some (.new data now) :=
  Function.update_self ..

@[simp] theorem withCreated_parent :
    view.withCreated now parent segment above data parent =
      some (above.addChild segment.name now) := by
  rw [withCreated, Function.update_of_ne (Path.extend_ne_self parent segment).symm,
    Function.update_self]

theorem withCreated_of_ne (untouched : path ≠ parent) (notCreated : path ≠ parent.extend segment) :
    view.withCreated now parent segment above data path = view path := by
  rw [withCreated, Function.update_of_ne notCreated, Function.update_of_ne untouched]

@[simp] theorem withDeleted_self :
    view.withDeleted now parent segment above (parent.extend segment) = none :=
  Function.update_self ..

@[simp] theorem withDeleted_parent :
    view.withDeleted now parent segment above parent =
      some (above.withoutChild segment.name now) := by
  rw [withDeleted, Function.update_of_ne (Path.extend_ne_self parent segment).symm,
    Function.update_self]

theorem withDeleted_of_ne (untouched : path ≠ parent) (notDeleted : path ≠ parent.extend segment) :
    view.withDeleted now parent segment above path = view path := by
  rw [withDeleted, Function.update_of_ne notDeleted, Function.update_of_ne untouched]

@[simp] theorem withData_self :
    view.withData now path node data path = some (node.setData data now) :=
  Function.update_self ..

theorem withData_of_ne {other : Path} (untouched : other ≠ path) :
    view.withData now path node data other = view other :=
  Function.update_of_ne untouched ..

variable {view}

theorem isSome_withCreated (found : view parent = some above) (path : Path) :
    (view.withCreated now parent segment above data path).isSome ↔
      path = parent.extend segment ∨ (view path).isSome := by
  by_cases created : path = parent.extend segment
  · simp [created]
  · by_cases touched : path = parent
    · subst touched
      simp [found]
    · simp [withCreated_of_ne view touched created, created]

theorem isSome_withDeleted (found : view parent = some above) (path : Path) :
    (view.withDeleted now parent segment above path).isSome ↔
      path ≠ parent.extend segment ∧ (view path).isSome := by
  by_cases deleted : path = parent.extend segment
  · simp [deleted]
  · by_cases touched : path = parent
    · subst touched
      simp [found, deleted]
    · simp [withDeleted_of_ne view touched deleted, deleted]

theorem isSome_withData (taken : view path = some node) (other : Path) :
    (view.withData now path node data other).isSome ↔ (view other).isSome := by
  by_cases touched : other = path
  · subst touched
    simp [taken]
  · rw [withData_of_ne view touched]

end Lookup

/-- The root exists, no node is without its parent, and a node names exactly the
nodes one step below it. -/
structure Consistent (view : View) : Prop where
  root_exists : (view Path.root).isSome
  parent_exists : ∀ (path : Path) (segment : Segment),
    (view (path.extend segment)).isSome → (view path).isSome
  mem_children_iff : ∀ {path : Path} {node : Node}, view path = some node →
    ∀ name, name ∈ node.children ↔
      ∃ segment, Segment.name segment = name ∧ (view (path.extend segment)).isSome

namespace Consistent

variable {view after : View} {now : Zxid}

/-- Below a missing node there is nothing. -/
theorem extend_eq_none (consistent : view.Consistent) {path : Path} (missing : view path = none)
    (segment : Segment) : view (path.extend segment) = none := by
  rw [← Option.not_isSome_iff_eq_none]
  intro present
  have above := consistent.parent_exists path segment present
  simp [missing] at above

/-- Below a node without children there is nothing. -/
theorem extend_eq_none_of_bare (consistent : view.Consistent) {path : Path} {node : Node}
    (found : view path = some node) (bare : node.hasChildren = false) (segment : Segment) :
    view (path.extend segment) = none := by
  rw [← Option.not_isSome_iff_eq_none]
  intro present
  apply Node.hasChildren_eq_false_iff.1 bare segment.name
  exact (consistent.mem_children_iff found _).2 ⟨segment, rfl, present⟩

/-- A node names a child exactly when the child exists. -/
theorem name_mem_children_iff (consistent : view.Consistent) {path : Path} {node : Node}
    (found : view path = some node) (segment : Segment) :
    segment.name ∈ node.children ↔ (view (path.extend segment)).isSome := by
  rw [consistent.mem_children_iff found]
  constructor
  · rintro ⟨other, same, present⟩
    rwa [← Segment.ext same]
  · exact fun present => ⟨segment, rfl, present⟩

variable {parent path : Path} {segment : Segment} {above node : Node} {data : Payload}

theorem withCreated (consistent : view.Consistent) (found : view parent = some above)
    (free : view (parent.extend segment) = none) :
    (view.withCreated now parent segment above data).Consistent where
  root_exists := (isSome_withCreated found _).2 (.inr consistent.root_exists)
  parent_exists := by
    intro path other present
    rw [isSome_withCreated found] at present ⊢
    rcases present with same | present
    · rw [Path.extend_inj] at same
      rw [same.1, found]
      exact .inr rfl
    · exact .inr (consistent.parent_exists path other present)
  mem_children_iff := by
    intro path reached lookup name
    simp only [isSome_withCreated found, Path.extend_inj]
    by_cases created : path = parent.extend segment
    · subst created
      rw [withCreated_self, Option.some.injEq] at lookup
      subst lookup
      constructor
      · intro member
        exact absurd member (Node.notMem_children_new data)
      · rintro ⟨other, -, same | present⟩
        · exact absurd same.1 (Path.extend_ne_self parent segment)
        · rw [consistent.extend_eq_none free other] at present
          cases present
    · by_cases touched : path = parent
      · subst touched
        rw [withCreated_parent, Option.some.injEq] at lookup
        subst lookup
        rw [Node.mem_children_addChild, consistent.mem_children_iff found]
        constructor
        · rintro (rfl | ⟨other, named, present⟩)
          · exact ⟨segment, rfl, .inl ⟨rfl, rfl⟩⟩
          · exact ⟨other, named, .inr present⟩
        · rintro ⟨other, named, ⟨-, rfl⟩ | present⟩
          · exact .inl named
          · exact .inr ⟨other, named, present⟩
      · rw [withCreated_of_ne view touched created] at lookup
        rw [consistent.mem_children_iff lookup]
        simp [touched]

theorem withDeleted (consistent : view.Consistent) (found : view parent = some above)
    (taken : view (parent.extend segment) = some node) (bare : node.hasChildren = false) :
    (view.withDeleted now parent segment above).Consistent where
  root_exists := (isSome_withDeleted found _).2
    ⟨(Path.extend_ne_root parent segment).symm, consistent.root_exists⟩
  parent_exists := by
    intro path other present
    rw [isSome_withDeleted found] at present ⊢
    refine ⟨?_, consistent.parent_exists path other present.2⟩
    rintro rfl
    rw [consistent.extend_eq_none_of_bare taken bare other] at present
    cases present.2
  mem_children_iff := by
    intro path reached lookup name
    simp only [isSome_withDeleted found, ne_eq, Path.extend_inj]
    by_cases deleted : path = parent.extend segment
    · subst deleted
      rw [withDeleted_self] at lookup
      cases lookup
    · by_cases touched : path = parent
      · subst touched
        rw [withDeleted_parent, Option.some.injEq] at lookup
        subst lookup
        rw [Node.mem_children_withoutChild, consistent.mem_children_iff found]
        constructor
        · rintro ⟨different, other, rfl, present⟩
          refine ⟨other, rfl, ?_, present⟩
          rintro ⟨-, rfl⟩
          exact different rfl
        · rintro ⟨other, rfl, different, present⟩
          refine ⟨fun same => different ⟨rfl, ?_⟩, other, rfl, present⟩
          exact (Segment.ext same).symm
      · rw [withDeleted_of_ne view touched deleted] at lookup
        rw [consistent.mem_children_iff lookup]
        simp [touched]

theorem withData (consistent : view.Consistent) (taken : view path = some node) :
    (view.withData now path node data).Consistent where
  root_exists := (isSome_withData taken _).2 consistent.root_exists
  parent_exists := by
    intro other below present
    rw [isSome_withData taken] at present ⊢
    exact consistent.parent_exists other below present
  mem_children_iff := by
    intro other reached lookup name
    simp only [isSome_withData taken]
    by_cases touched : other = path
    · subst touched
      rw [withData_self, Option.some.injEq] at lookup
      subst lookup
      rw [Node.children_setData, consistent.mem_children_iff taken]
    · rw [withData_of_ne view touched] at lookup
      exact consistent.mem_children_iff lookup name

/-- Every edit leaves a consistent view consistent. -/
theorem step {edit : Edit} (consistent : view.Consistent) (step : Step now view edit after) :
    after.Consistent := by
  cases step with
  | create found free => exact consistent.withCreated found free
  | delete found taken bare => exact consistent.withDeleted found taken bare
  | setData taken => exact consistent.withData taken

end Consistent

end View

end BatchTree
