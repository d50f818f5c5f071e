import BatchTree.Tree.ChangeSet

/-!
# Overlays

An overlay stages the changes of a batch on top of a tree.  It is read like a
tree: a staged image hides what the tree holds.  The tree itself is never
touched, so a batch is given up by forgetting its overlay.
-/

namespace BatchTree

/-- The tentative state of one batch. -/
structure Overlay where
  base : Tree
  staged : ImageMap := ∅
  /-- The staged changes in order. -/
  log : List Change := []

namespace Overlay

/-- An overlay that stages nothing. -/
def ofTree (base : Tree) : Overlay where
  base := base

/-- The number that the batch would be installed under. -/
def zxid (overlay : Overlay) : Zxid :=
  overlay.base.zxid + 1

/-- A node as the batch sees it. -/
def get? (overlay : Overlay) (path : Path) : Option Node :=
  match overlay.staged[path]? with
  | some image => image
  | none => overlay.base.get? path

def contains (overlay : Overlay) (path : Path) : Bool :=
  (overlay.get? path).isSome

/-- Has the batch touched the path? -/
def isStaged (overlay : Overlay) (path : Path) : Bool :=
  overlay.staged.contains path

/-- Has the batch changed nothing? -/
def isEmpty (overlay : Overlay) : Bool :=
  overlay.log.isEmpty

/-- Stage an image. -/
def stage (overlay : Overlay) (path : Path) (image : Image) : Overlay :=
  { overlay with staged := overlay.staged.insert path image }

/-- Add a change to the end of the log. -/
def record (overlay : Overlay) (change : Change) : Overlay :=
  { overlay with log := overlay.log ++ [change] }

/-- Stage an update of a node that the batch sees. -/
def update? (overlay : Overlay) (path : Path) (change : Node → Node) : Option Overlay :=
  (overlay.get? path).map fun node => overlay.stage path (some (change node))

@[simp] theorem get?_ofTree (base : Tree) (path : Path) :
    (ofTree base).get? path = base.get? path := by
  simp [ofTree, get?]

theorem get?_stage (overlay : Overlay) (path other : Path) (image : Image) :
    (overlay.stage path image).get? other = if path = other then image else overlay.get? other := by
  by_cases same : path = other
  · simp [get?, stage, same]
  · simp [get?, stage, Std.ExtTreeMap.getElem?_insert, same]

@[simp] theorem get?_record (overlay : Overlay) (change : Change) (path : Path) :
    (overlay.record change).get? path = overlay.get? path := rfl

/-- Stage a new node.  Nothing is staged for the root, for a path that is taken,
or for one whose parent is missing. -/
def stageCreate? (overlay : Overlay) (path : Path) (data : Payload) : Option Overlay :=
  match path.parent? with
  | none => none
  | some parent =>
      if overlay.contains path then
        none
      else
        (overlay.update? parent fun node => node.addChild path.name overlay.zxid).map
          fun prepared =>
            (prepared.stage path (some (Node.new data overlay.zxid))).record (.create path)

/-- Stage the removal of a node.  Nothing is staged for the root, for a missing
node, for one with children, or for one whose parent is missing. -/
def stageDelete? (overlay : Overlay) (path : Path) : Option Overlay :=
  match path.parent?, overlay.get? path with
  | some parent, some node =>
      if node.hasChildren then
        none
      else
        (overlay.update? parent fun above => above.withoutChild path.name overlay.zxid).map
          fun prepared => (prepared.stage path none).record (.delete path)
  | _, _ => none

/-- Stage new data for a node, and say what its record is then. -/
def stageSetData? (overlay : Overlay) (path : Path) (data : Payload) : Option (Overlay × Stat) :=
  (overlay.get? path).map fun node =>
    let changed := node.setData data overlay.zxid
    ((overlay.stage path (some changed)).record (.setData path changed.version), changed.stat)

/-- The staged changes as a set for the tree underneath. -/
def toChangeSet (overlay : Overlay) : ChangeSet where
  base := overlay.base.zxid
  images := overlay.staged
  log := overlay.log

end Overlay

end BatchTree
